import Mathlib

/-!
# Doubles in units

A finite double is a whole number of units, where one unit is the smallest positive double
(`Double.units`). Three facts are proved about the logical model of doubles.

* Finite doubles compare as their units do (`Double.compare_eq`), so their comparisons are those of
  a linear order. This needs the forms that unpacking leaves to be canonical, because they are
  compared by exponent first and by mantissa then.
* So do all doubles, with a place for each infinity and none for what is not a number
  (`Double.compare_eq_place`).
* The difference of finite doubles stands to zero as the first to the second
  (`Double.compare_sub_zero`), although it is rounded and may overflow. Mantissas are rounded to
  53 bits and never to nothing, and packing keeps the sign.

Nothing is said about how near a rounded result is to the exact one: what is proved of delays and
of frame rates depends on signs and order alone.
-/

namespace MediaTelemetry

namespace Double

open Float.Model UnpackedFloat

/-- Comparisons agree if both strict inequalities do. -/
theorem compare_congr {α β : Type} [LinearOrder α] [LinearOrder β] {a b : α} {c d : β}
    (hlt : a < b ↔ c < d) (hgt : b < a ↔ d < c) : compare a b = compare c d := by
  rcases lt_trichotomy a b with h | h | h
  · rw [compare_lt_iff_lt.2 h, compare_lt_iff_lt.2 (hlt.1 h)]
  · have heq : c = d := le_antisymm (le_of_not_gt fun h' ↦ (hgt.2 h').ne' h)
      (le_of_not_gt fun h' ↦ (hlt.2 h').ne h)
    rw [compare_eq_iff_eq.2 h, compare_eq_iff_eq.2 heq]
  · rw [compare_gt_iff_gt.2 h, compare_gt_iff_gt.2 (hgt.1 h)]

/-! ### Canonical forms -/

/-- The forms that unpacking leaves: the mantissa takes up 53 bits, unless the exponent is the least
one. -/
def Canonical : UnpackedFloat → Prop
  | .finite _ m e _ => m < 2 ^ 53 ∧ -1074 ≤ e ∧ (2 ^ 52 ≤ m ∨ e = -1074)
  | _ => True

theorem canonical_unpack_bits (b : BitVec Format.binary64.numBits) :
    Canonical (UnpackedFloat.unpack Format.binary64 b) := by
  rw [UnpackedFloat.unpack]
  dsimp only
  have hm : (@unpackMantissa Format.binary64 b).toNat < 2 ^ 52 := BitVec.isLt _
  split
  · split <;> trivial
  split
  · split
    · trivial
    · -- subnormal
      rename_i he _
      rw [he]
      exact ⟨Nat.lt_trans hm (by decide), by decide, .inr (by decide)⟩
  · -- normal
    rename_i he
    have hpos : 0 < (@unpackExponent Format.binary64 b).toNat :=
      Nat.pos_of_ne_zero fun h ↦ he (BitVec.eq_of_toNat_eq h)
    have hmantissa : (1#1 ++ @unpackMantissa Format.binary64 b).toNat =
        2 ^ 52 + (@unpackMantissa Format.binary64 b).toNat := by
      rw [BitVec.toNat_append]
      exact (Nat.shiftLeft_add_eq_or_of_lt hm 1).symm
    have hbias : (Format.binary64.exponentBias : Int) +
        Format.binary64.mantissaBitsWithoutImplicit = 1075 := by decide
    rw [Canonical, hmantissa, hbias]
    omega

theorem canonical_unpack (x : Float.Model) : Canonical x.unpack := canonical_unpack_bits _

/-! ### Units -/

/-- The exact value in units; zero for what is not finite. -/
def unitsOf : UnpackedFloat → Int
  | .finite s m e _ => s.apply ((m * 2 ^ (e + 1074).toNat : Nat) : Int)
  | _ => 0

/-- With 53 bits of mantissa the larger exponent decides. -/
theorem mul_two_pow_lt {m₁ m₂ k₁ k₂ : Nat} (h₁ : m₁ < 2 ^ 53) (h₂ : 2 ^ 52 ≤ m₂ ∨ k₂ = 0)
    (hk : k₁ < k₂) : m₁ * 2 ^ k₁ < m₂ * 2 ^ k₂ :=
  calc m₁ * 2 ^ k₁ < 2 ^ 53 * 2 ^ k₁ := Nat.mul_lt_mul_of_pos_right h₁ (Nat.two_pow_pos _)
    _ = 2 ^ 52 * 2 ^ (k₁ + 1) := by rw [Nat.pow_succ 2 k₁]; omega
    _ ≤ m₂ * 2 ^ k₂ := Nat.mul_le_mul (by omega) (Nat.pow_le_pow_right (by decide) hk)

theorem compare_mul_two_pow {m₁ m₂ k₁ k₂ : Nat} (h₁ : m₁ < 2 ^ 53) (h₂ : m₂ < 2 ^ 53)
    (hk₁ : 2 ^ 52 ≤ m₁ ∨ k₁ = 0) (hk₂ : 2 ^ 52 ≤ m₂ ∨ k₂ = 0) :
    compare (m₁ * 2 ^ k₁) (m₂ * 2 ^ k₂) = (compare k₁ k₂).then (compare m₁ m₂) := by
  rcases Nat.lt_trichotomy k₁ k₂ with hk | rfl | hk
  · rw [Nat.compare_eq_lt.2 hk, Nat.compare_eq_lt.2 (mul_two_pow_lt h₁ hk₂ hk)]
    rfl
  · have hpos := Nat.two_pow_pos k₁
    rw [Nat.compare_eq_eq.2 rfl, Ordering.eq_then]
    exact compare_congr (Nat.mul_lt_mul_right hpos) (Nat.mul_lt_mul_right hpos)
  · rw [Nat.compare_eq_gt.2 hk, Nat.compare_eq_gt.2 (mul_two_pow_lt h₂ hk₁ hk)]
    rfl

theorem compare_magnitudes {s₁ s₂ : Sign} {m₁ m₂ : Nat} {e₁ e₂ : Int} {h₁ : 0 < m₁} {h₂ : 0 < m₂}
    (hc₁ : Canonical (.finite s₁ m₁ e₁ h₁)) (hc₂ : Canonical (.finite s₂ m₂ e₂ h₂)) :
    (compare e₁ e₂).then (compare m₁ m₂) =
      compare (m₁ * 2 ^ (e₁ + 1074).toNat) (m₂ * 2 ^ (e₂ + 1074).toNat) := by
  obtain ⟨hm₁, he₁, hn₁⟩ := hc₁
  obtain ⟨hm₂, he₂, hn₂⟩ := hc₂
  have hexponent : compare e₁ e₂ = compare (e₁ + 1074).toNat (e₂ + 1074).toNat :=
    compare_congr (by omega) (by omega)
  rw [hexponent, compare_mul_two_pow hm₁ hm₂ (by omega) (by omega)]

theorem unitsOf_pos {m : Nat} {e : Int} (hm : 0 < m) : 0 < unitsOf (.finite .positive m e hm) :=
  Int.natCast_pos.2 (Nat.mul_pos hm (Nat.two_pow_pos _))

theorem unitsOf_neg {m : Nat} {e : Int} (hm : 0 < m) : unitsOf (.finite .negative m e hm) < 0 :=
  Int.neg_neg_of_pos (unitsOf_pos hm)

/-- **Unpacked finite doubles compare as their units do.** -/
theorem compare_unitsOf {a b : UnpackedFloat} (ha : Canonical a) (hb : Canonical b)
    (hfa : a.isFinite = true) (hfb : b.isFinite = true) :
    a.compare b = some (compare (unitsOf a) (unitsOf b)) := by
  cases a with
  | infinity | notANumber => exact absurd hfa Bool.false_ne_true
  | zero s₁ =>
    cases b with
    | infinity | notANumber => exact absurd hfb Bool.false_ne_true
    | zero s₂ => rfl
    | finite s₂ m₂ e₂ h₂ =>
      cases s₂ with
      | negative => exact congrArg some (compare_gt_iff_gt.2 (unitsOf_neg h₂)).symm
      | positive => exact congrArg some (compare_lt_iff_lt.2 (unitsOf_pos h₂)).symm
  | finite s₁ m₁ e₁ h₁ =>
    cases b with
    | infinity | notANumber => exact absurd hfb Bool.false_ne_true
    | zero s₂ =>
      cases s₁ with
      | negative => exact congrArg some (compare_lt_iff_lt.2 (unitsOf_neg h₁)).symm
      | positive => exact congrArg some (compare_gt_iff_gt.2 (unitsOf_pos h₁)).symm
    | finite s₂ m₂ e₂ h₂ =>
      cases s₁ with
      | negative =>
        cases s₂ with
        | negative =>
          refine congrArg some ((congrArg Ordering.swap (compare_magnitudes ha hb)).trans ?_)
          rw [← Std.OrientedCmp.eq_swap]
          exact compare_congr (by simp only [unitsOf, Sign.apply]; omega)
            (by simp only [unitsOf, Sign.apply]; omega)
        | positive =>
          exact congrArg some
            (compare_lt_iff_lt.2 ((unitsOf_neg h₁).trans (unitsOf_pos h₂))).symm
      | positive =>
        cases s₂ with
        | negative =>
          exact congrArg some
            (compare_gt_iff_gt.2 ((unitsOf_neg h₂).trans (unitsOf_pos h₁))).symm
        | positive =>
          refine congrArg some ((compare_magnitudes ha hb).trans ?_)
          exact compare_congr Int.ofNat_lt.symm Int.ofNat_lt.symm

/-! ### Infinities and what is not a number -/

/-- Where a number stands among the numbers, infinities included. What is not a number stands
nowhere. -/
def placeOf : UnpackedFloat → Option (WithBot (WithTop ℤ))
  | .notANumber => none
  | .infinity .negative => some ⊥
  | .infinity .positive => some ⊤
  | u => some ((unitsOf u : ℤ) : WithTop ℤ)

theorem compare_infinity_finite (s : Sign) {u : UnpackedFloat} (h : u.isFinite = true) :
    (infinity s).compare u = (placeOf (.infinity s)).bind fun p ↦ (placeOf u).map (compare p) := by
  cases u with
  | infinity | notANumber => exact absurd h Bool.false_ne_true
  | zero | finite =>
    cases s with
    | negative => exact congrArg some (compare_lt_iff_lt.2 (WithBot.bot_lt_coe _)).symm
    | positive =>
      exact congrArg some
        (compare_gt_iff_gt.2 (WithBot.coe_lt_coe.2 (WithTop.coe_lt_top _))).symm

theorem compare_finite_infinity (s : Sign) {u : UnpackedFloat} (h : u.isFinite = true) :
    u.compare (infinity s) = (placeOf u).bind fun p ↦ (placeOf (.infinity s)).map (compare p) := by
  cases u with
  | infinity | notANumber => exact absurd h Bool.false_ne_true
  | zero | finite =>
    cases s with
    | negative => exact congrArg some (compare_gt_iff_gt.2 (WithBot.bot_lt_coe _)).symm
    | positive =>
      exact congrArg some
        (compare_lt_iff_lt.2 (WithBot.coe_lt_coe.2 (WithTop.coe_lt_top _))).symm

/-- **Unpacked numbers compare as their places do**, and nothing compares with what is not a
number. -/
theorem compare_placeOf {a b : UnpackedFloat} (ha : Canonical a) (hb : Canonical b) :
    a.compare b = (placeOf a).bind fun p ↦ (placeOf b).map (compare p) := by
  have hplace : ∀ u : UnpackedFloat, u.isFinite = true →
      placeOf u = some ((unitsOf u : ℤ) : WithTop ℤ) := by
    intro u h
    cases u with
    | infinity | notANumber => exact absurd h Bool.false_ne_true
    | zero | finite => rfl
  cases hfa : a.isFinite with
  | true =>
    cases hfb : b.isFinite with
    | true =>
      rw [compare_unitsOf ha hb hfa hfb, hplace a hfa, hplace b hfb]
      exact congrArg some (compare_congr (by simp) (by simp))
    | false =>
      cases b with
      | infinity s => exact compare_finite_infinity s hfa
      | notANumber => rw [hplace a hfa]; cases a <;> rfl
      | zero | finite => cases hfb
  | false =>
    cases a with
    | notANumber => rfl
    | infinity s =>
      cases hfb : b.isFinite with
      | true => exact compare_infinity_finite s hfb
      | false =>
        cases b with
        | infinity s' => cases s <;> cases s' <;> rfl
        | notANumber => cases s <;> rfl
        | zero | finite => cases hfb
    | zero | finite => cases hfa

/-! ### Rounding and packing -/

/-- A shift of the mantissa is a division, whatever bits are remembered beside it. -/
theorem mantissa_shiftRight (em : ExtendedMantissa) (k : Nat) :
    (em >>> k).mantissa = em.mantissa / 2 ^ k := by
  induction k with
  | zero => exact (Nat.div_one _).symm
  | succ k ih =>
    show (em >>> k).mantissa / 2 = _
    rw [ih, Nat.div_div_eq_div_mul, Nat.pow_succ]

/-- A mantissa is shifted by as many bits as it has more than 53. -/
theorem shiftAmount_eq (m : Nat) {e : Int} (he : -1074 ≤ e) :
    (Format.binary64.targetExponent (totalExponent m e) - e).toNat = m.log2 - 52 := by
  have htarget : Format.binary64.targetExponent (totalExponent m e) =
      max (m.log2 + 1 + e - 53) (-1074) := rfl
  omega

theorem shifted_bounds {m : Nat} (hm : 0 < m) :
    0 < m / 2 ^ (m.log2 - 52) ∧ m / 2 ^ (m.log2 - 52) < 2 ^ 53 := by
  constructor
  · refine Nat.div_pos ?_ (Nat.two_pow_pos _)
    exact (Nat.pow_le_pow_right (by decide) (Nat.sub_le ..)).trans (Nat.log2_self_le hm.ne')
  · refine Nat.div_lt_of_lt_mul ?_
    rw [← Nat.pow_add]
    exact Nat.lt_log2_self.trans_le (Nat.pow_le_pow_right (by decide) (by omega))

theorem le_roundToNearestEven (m : Nat) (a : Accuracy) : m ≤ a.roundToNearestEven m := by
  rcases a with _ | (_ | _ | _)
  · exact Nat.le_refl m
  · exact Nat.le_refl m
  · exact Nat.le_add_right ..
  · exact Nat.le_succ m

theorem mantissa_shiftToTargetExponent {m : Nat} {e : Int} (he : -1074 ≤ e) (a : Accuracy) :
    (shiftToTargetExponent Format.binary64 m e a).1.mantissa = m / 2 ^ (m.log2 - 52) := by
  have hmantissa : (ExtendedMantissa.ofMantissaAndAccuracy m a).mantissa = m := by
    rcases a with _ | (_ | _ | _) <;> rfl
  rw [shiftToTargetExponent, shiftToExponent, mantissa_shiftRight, hmantissa, shiftAmount_eq m he]

theorem le_exponent_shiftToTargetExponent (m : Nat) (e : Int) (a : Accuracy) :
    e ≤ (shiftToTargetExponent Format.binary64 m e a).2 :=
  Int.le_add_of_nonneg_right (Int.natCast_nonneg _)

/-- The form has the sign and is small enough to be packed. -/
inductive Rounded (s : Sign) : UnpackedFloat → Prop
  | finite (m : Nat) (e : Int) (hpos : 0 < m) (hm : m < 2 ^ 53) (he : -1074 ≤ e) :
      Rounded s (.finite s m e hpos)

/-- Rounding may carry over into a 54th bit, so a mantissa is shifted twice; neither shift loses all
of it. -/
theorem rounded_roundWithAccuracy (s : Sign) {m : Nat} (hm : 0 < m) {e : Int} (he : -1074 ≤ e)
    (a : Accuracy) : Rounded s (roundWithAccuracy Format.binary64 s m e a) := by
  rw [roundWithAccuracy]
  dsimp only
  have hfirst := shifted_bounds hm
  rw [← mantissa_shiftToTargetExponent he a] at hfirst
  have hrounded : 0 < (shiftToTargetExponent Format.binary64 m e a).1.roundedMantissa :=
    hfirst.1.trans_le (le_roundToNearestEven _ _)
  have he₁ := he.trans (le_exponent_shiftToTargetExponent m e a)
  have hsecond := shifted_bounds hrounded
  rw [← mantissa_shiftToTargetExponent he₁ .exact] at hsecond
  rw [dif_neg hsecond.1.ne']
  exact .finite _ _ _ hsecond.2 (he₁.trans (le_exponent_shiftToTargetExponent ..))

theorem rounded_round (s : Sign) {m : Nat} (hm : 0 < m) {e : Int} (he : -1074 ≤ e) :
    Rounded s (UnpackedFloat.round Format.binary64 s m e) := by
  rw [UnpackedFloat.round]
  refine rounded_roundWithAccuracy s ?_ ?_ .exact
  · show 0 < m <<< _
    rw [Nat.shiftLeft_eq]
    exact Nat.mul_pos hm (Nat.two_pow_pos _)
  · have htarget : -1074 ≤ Format.binary64.targetExponent (totalExponent m e) := le_max_right _ _
    show -1074 ≤ e - ((_ - _ : Int).toNat : Int)
    omega

/-- How what has a sign stands to zero. -/
def side : Sign → Ordering
  | .negative => .lt
  | .positive => .gt

/-- The form can be packed, and stands to zero as the ordering says. -/
inductive StandsToZero : Ordering → UnpackedFloat → Prop
  | zero (s : Sign) : StandsToZero .eq (.zero s)
  | signed (s : Sign) {u : UnpackedFloat} (h : Rounded s u) : StandsToZero (side s) u

theorem standsToZero_normalize (m : Int) {e : Int} (he : -1074 ≤ e) (s : Sign) :
    StandsToZero (compare m 0) (UnpackedFloat.normalize Format.binary64 m e s) := by
  rw [UnpackedFloat.normalize]
  rcases lt_trichotomy m 0 with h | rfl | h
  · rw [compare_lt_iff_lt.2 h]
    exact .signed .negative (rounded_round _ (by omega) he)
  · exact .zero s
  · rw [compare_gt_iff_gt.2 h]
    exact .signed .positive (rounded_round _ (by omega) he)

/-- Moved to a smaller exponent, a mantissa keeps the value. -/
theorem unitsOf_eq_mul {s : Sign} {m : Nat} {e : Int} (hm : 0 < m) {least : Int}
    (hleast : -1074 ≤ least) (hle : least ≤ e) :
    unitsOf (.finite s m e hm) =
      s.apply ((decreaseExponent m e least).1 : Nat) * 2 ^ (least + 1074).toNat := by
  have hexponent : (e + 1074).toNat = (e - least).toNat + (least + 1074).toNat := by omega
  have hvalue : m * 2 ^ (e + 1074).toNat =
      (decreaseExponent m e least).1 * 2 ^ (least + 1074).toNat := by
    rw [decreaseExponent, Nat.shiftLeft_eq, Nat.mul_assoc, ← Nat.pow_add, hexponent]
  rw [unitsOf, hvalue]
  cases s <;> simp [Sign.apply]

theorem compare_unitsOf_zero {s : Sign} {m : Nat} {e : Int} (hm : 0 < m) :
    compare (unitsOf (.finite s m e hm)) 0 = side s ∧
      compare 0 (unitsOf (.finite s m e hm)) = side (-s) := by
  cases s with
  | negative => exact ⟨compare_lt_iff_lt.2 (unitsOf_neg hm), compare_gt_iff_gt.2 (unitsOf_neg hm)⟩
  | positive => exact ⟨compare_gt_iff_gt.2 (unitsOf_pos hm), compare_lt_iff_lt.2 (unitsOf_pos hm)⟩

/-- **An unpacked difference stands to zero as its first term to its second.** -/
theorem standsToZero_sub {a b : UnpackedFloat} (ha : Canonical a) (hb : Canonical b)
    (hfa : a.isFinite = true) (hfb : b.isFinite = true) :
    StandsToZero (compare (unitsOf a) (unitsOf b)) (UnpackedFloat.sub Format.binary64 a b) := by
  cases a with
  | infinity | notANumber => exact absurd hfa Bool.false_ne_true
  | zero s₁ =>
    cases b with
    | infinity | notANumber => exact absurd hfb Bool.false_ne_true
    | zero s₂ =>
      rw [UnpackedFloat.sub]
      split <;> exact .zero _
    | finite s₂ m₂ e₂ h₂ =>
      show StandsToZero (compare 0 (unitsOf _)) _
      rw [(compare_unitsOf_zero h₂).2]
      exact .signed _ (.finite m₂ e₂ h₂ hb.1 hb.2.1)
  | finite s₁ m₁ e₁ h₁ =>
    cases b with
    | infinity | notANumber => exact absurd hfb Bool.false_ne_true
    | zero s₂ =>
      show StandsToZero (compare (unitsOf _) 0) _
      rw [(compare_unitsOf_zero h₁).1]
      exact .signed _ (.finite m₁ e₁ h₁ ha.1 ha.2.1)
    | finite s₂ m₂ e₂ h₂ =>
      -- both are moved to the lesser exponent, and the exact difference is rounded
      have hleast : -1074 ≤ min e₁ e₂ := le_min ha.2.1 hb.2.1
      rw [unitsOf_eq_mul h₁ hleast (min_le_left ..), unitsOf_eq_mul h₂ hleast (min_le_right ..),
        UnpackedFloat.sub]
      dsimp only
      set x := s₁.apply ((decreaseExponent m₁ e₁ (min e₁ e₂)).1 : Nat)
      set y := s₂.apply ((decreaseExponent m₂ e₂ (min e₁ e₂)).1 : Nat)
      have hscale : (0 : Int) < 2 ^ (min e₁ e₂ + 1074).toNat := by positivity
      have hcompare : compare (x * 2 ^ (min e₁ e₂ + 1074).toNat)
          (y * 2 ^ (min e₁ e₂ + 1074).toNat) = compare (x - y) 0 :=
        compare_congr (by rw [mul_lt_mul_iff_left₀ hscale, sub_neg])
          (by rw [mul_lt_mul_iff_left₀ hscale, sub_pos])
      rw [hcompare]
      exact standsToZero_normalize (x - y) hleast .positive

/-- Bits that are neither those of a zero nor of something that is not a number stand to zero by
their sign. -/
theorem compare_unpack_packComponents (s : Sign) {e : BitVec Format.binary64.exponentBits}
    {m : BitVec Format.binary64.mantissaBitsWithoutImplicit}
    (h : e = -1#_ ∧ m = 0#_ ∨ e ≠ -1#_ ∧ (e = 0#_ → m ≠ 0#_)) :
    (UnpackedFloat.unpack Format.binary64 (packComponents Format.binary64 s e m)).compare
      (.zero .positive) = some (side s) := by
  rw [UnpackedFloat.unpack]
  simp only [unpackExponent_packComponents, unpackMantissa_packComponents,
    unpackSign_packComponents, Sign.ofBitVec_toBitVec]
  rcases h with ⟨rfl, rfl⟩ | ⟨he, hm⟩
  · cases s <;> rfl
  · rw [if_neg he]
    by_cases hzero : e = 0#_
    · rw [if_pos hzero, dif_neg (hm hzero)]
      cases s <;> rfl
    · rw [if_neg hzero]
      cases s <;> rfl

/-- Packing may overflow, but it keeps the sign. -/
theorem compare_pack_of_rounded {s : Sign} {u : UnpackedFloat} (h : Rounded s u) :
    (Float.Model.pack u).unpack.compare (.zero .positive) = some (side s) := by
  obtain ⟨m, e, hpos, hm, he⟩ := h
  show (UnpackedFloat.unpack Format.binary64 (UnpackedFloat.pack Format.binary64 _)).compare _ = _
  rw [UnpackedFloat.pack]
  dsimp only
  have hbias : (e + Format.binary64.exponentBias +
      Format.binary64.mantissaBitsWithoutImplicit).toNat = (e + 1075).toNat :=
    congrArg Int.toNat (add_assoc ..)
  rw [hbias]
  split
  · -- overflow to infinity
    exact compare_unpack_packComponents s (.inl ⟨rfl, rfl⟩)
  rename_i hbounded
  have hbiased : (BitVec.ofNat Format.binary64.exponentBits (e + 1075).toNat).toNat =
      (e + 1075).toNat :=
    Nat.mod_eq_of_lt (Nat.lt_of_succ_lt (Nat.lt_of_not_le hbounded))
  split
  · -- normal: the exponent bits are neither all ones nor all zeros
    refine compare_unpack_packComponents s (.inr ⟨fun h ↦ ?_, fun h ↦ ?_⟩)
    · have hmax : (e + 1075).toNat = 2 ^ 11 - 1 := hbiased.symm.trans (congrArg BitVec.toNat h)
      exact hbounded (by rw [hmax]; decide)
    · have hmin : (e + 1075).toNat = 0 := hbiased.symm.trans (congrArg BitVec.toNat h)
      omega
  · -- subnormal: the mantissa bits are not all zeros
    rename_i hlog
    have hsmall : m < 2 ^ 52 := by
      have hlt : m.log2 < 53 := (Nat.log2_lt hpos.ne').2 hm
      have hne : ¬ m.log2 + 1 = 53 := hlog
      exact (Nat.log2_lt hpos.ne').1 (by omega)
    refine compare_unpack_packComponents s (.inr ⟨by decide, fun _ h ↦ hpos.ne' ?_⟩)
    exact (Nat.mod_eq_of_lt hsmall).symm.trans (congrArg BitVec.toNat h)

theorem compare_pack_zero {o : Ordering} {u : UnpackedFloat} (h : StandsToZero o u) :
    (Float.Model.pack u).unpack.compare (.zero .positive) = some o := by
  cases h with
  | zero s =>
    show (UnpackedFloat.unpack Format.binary64 (packedZero Format.binary64 s)).compare _ = _
    rw [unpack_packedZero]
    rfl
  | signed s h => exact compare_pack_of_rounded h

/-! ### Doubles -/

/-- What a finite double is in units. -/
def units (x : Float) : Int := unitsOf x.toModel.unpack

theorem lt_iff_compare {x y : Float} : x < y ↔ x.toModel.compare y.toModel = some .lt := by
  show decide ((x.toModel.compare y.toModel == some .lt) = true) = true ↔ _
  rw [decide_eq_true_eq, beq_iff_eq]

theorem beq_iff_compare {x y : Float} :
    (x == y) = true ↔ x.toModel.compare y.toModel = some .eq := by
  show (x.toModel.compare y.toModel == some .eq) = true ↔ _
  rw [beq_iff_eq]

/-- The same comparison with zero on the other side. -/
theorem pos_iff_compare {x : Float} :
    0.0 < x ↔ x.toModel.compare (0.0 : Float).toModel = some .gt := by
  rw [lt_iff_compare]
  show (UnpackedFloat.zero .positive).compare x.toModel.unpack = some .lt ↔
    x.toModel.unpack.compare (.zero .positive) = some .gt
  generalize x.toModel.unpack = u
  rcases u with (_ | _) | _ | _ | ⟨_ | _, _, _, _⟩ <;> simp [UnpackedFloat.compare]

section Finite

variable {x y : Float} (hx : x.isFinite = true) (hy : y.isFinite = true)

include hx hy

/-- **Finite doubles compare as their units do.** -/
theorem compare_eq : x.toModel.compare y.toModel = some (compare (units x) (units y)) :=
  compare_unitsOf (canonical_unpack _) (canonical_unpack _) hx hy

/-- **The difference of finite doubles stands to zero as the first to the second.** -/
theorem compare_sub_zero :
    (x - y).toModel.compare (0.0 : Float).toModel = x.toModel.compare y.toModel := by
  rw [compare_eq hx hy]
  exact compare_pack_zero (standsToZero_sub (canonical_unpack _) (canonical_unpack _) hx hy)

theorem lt_iff : x < y ↔ units x < units y := by
  rw [lt_iff_compare, compare_eq hx hy, Option.some.injEq, compare_lt_iff_lt]

theorem le_iff : x ≤ y ↔ units x ≤ units y := by
  show decide ((x.toModel.compare y.toModel).any Ordering.isLE = true) = true ↔ _
  rw [compare_eq hx hy, decide_eq_true_eq, Option.any_some, Ordering.isLE_iff_ne_gt,
    ← compare_le_iff_le]

theorem beq_iff : (x == y) = true ↔ units x = units y := by
  rw [beq_iff_compare, compare_eq hx hy, Option.some.injEq, compare_eq_iff_eq]

theorem sub_neg_iff : x - y < 0.0 ↔ x < y := by
  rw [lt_iff_compare, compare_sub_zero hx hy, lt_iff_compare]

theorem sub_beq_zero_iff : (x - y == 0.0) = true ↔ (x == y) = true := by
  rw [beq_iff_compare, compare_sub_zero hx hy, beq_iff_compare]

theorem sub_pos_iff : 0.0 < x - y ↔ y < x := by
  rw [pos_iff_compare, compare_sub_zero hx hy, compare_eq hx hy, Option.some.injEq,
    compare_gt_iff_gt, lt_iff hy hx]

end Finite

/-- Where a double stands among the numbers. -/
def place (x : Float) : Option (WithBot (WithTop ℤ)) := placeOf x.toModel.unpack

theorem isNaN_eq (x : Float) : x.isNaN = (place x).isNone := by
  show x.toModel.unpack.isNaN = (placeOf x.toModel.unpack).isNone
  rcases x.toModel.unpack with (_ | _) | _ | _ | _ <;> rfl

theorem compare_eq_place (x y : Float) :
    x.toModel.compare y.toModel = (place x).bind fun p ↦ (place y).map (compare p) :=
  compare_placeOf (canonical_unpack _) (canonical_unpack _)

theorem le_iff_place {x y : Float} : x ≤ y ↔ ∃ p ∈ place x, ∃ q ∈ place y, p ≤ q := by
  show decide ((x.toModel.compare y.toModel).any Ordering.isLE = true) = true ↔ _
  rw [compare_eq_place, decide_eq_true_eq]
  cases place x <;> cases place y <;> simp [Ordering.isLE_iff_ne_gt, ← compare_le_iff_le]

theorem lt_iff_place {x y : Float} : x < y ↔ ∃ p ∈ place x, ∃ q ∈ place y, p < q := by
  rw [lt_iff_compare, compare_eq_place]
  cases place x <;> cases place y <;> simp [compare_lt_iff_lt]

/-- Negative zero changes nothing that it is added to. -/
theorem negZero_add (x : Float) : -0.0 + x = x := by
  have hadd : ∀ u, UnpackedFloat.add Format.binary64 (.zero .negative) u = u := by
    intro u
    rcases u with _ | _ | (_ | _) | _ <;> rfl
  calc -0.0 + x
      = .ofModel (.pack (UnpackedFloat.add Format.binary64 (.zero .negative) x.toModel.unpack)) :=
        rfl
    _ = .ofModel (.pack x.toModel.unpack) := by rw [hadd]
    _ = x := x.ofBits_toBits

theorem le_trans {x y z : Float} (hxy : x ≤ y) (hyz : y ≤ z) : x ≤ z := by
  obtain ⟨p, hp, q, hq, hpq⟩ := le_iff_place.1 hxy
  obtain ⟨q', hq', r, hr, hqr⟩ := le_iff_place.1 hyz
  obtain rfl := Option.mem_unique hq hq'
  exact le_iff_place.2 ⟨p, hp, r, hr, hpq.trans hqr⟩

theorem le_of_lt {x y : Float} (h : x < y) : x ≤ y := by
  obtain ⟨p, hp, q, hq, hpq⟩ := lt_iff_place.1 h
  exact le_iff_place.2 ⟨p, hp, q, hq, hpq.le⟩

theorem not_le_of_lt {x y : Float} (h : x < y) : ¬ y ≤ x := by
  intro hle
  obtain ⟨p, hp, q, hq, hpq⟩ := lt_iff_place.1 h
  obtain ⟨q', hq', p', hp', hqp⟩ := le_iff_place.1 hle
  obtain rfl := Option.mem_unique hq hq'
  obtain rfl := Option.mem_unique hp hp'
  exact hpq.not_ge hqp

theorem le_or_lt {x y : Float} (hx : x.isNaN = false) (hy : y.isNaN = false) : x ≤ y ∨ y < x := by
  rw [isNaN_eq, Option.isNone_eq_false_iff, Option.isSome_iff_exists] at hx hy
  obtain ⟨p, hp⟩ := hx
  obtain ⟨q, hq⟩ := hy
  rcases le_or_gt p q with h | h
  · exact .inl (le_iff_place.2 ⟨p, hp, q, hq, h⟩)
  · exact .inr (lt_iff_place.2 ⟨q, hq, p, hp, h⟩)

theorem isNaN_right_of_le {x y : Float} (h : x ≤ y) : y.isNaN = false := by
  obtain ⟨-, -, q, hq, -⟩ := le_iff_place.1 h
  rw [isNaN_eq, Option.mem_def.1 hq]
  rfl

end Double

end MediaTelemetry
