import MapQuery.Proofs.Number.Unpacked

/-!
# How the machine rounds

The machine shifts a mantissa to the right, one bit at a time, and keeps of what leaves it the last
bit, and whether there was another one before. That is enough to round as a quotient by a power of
two is rounded. So what an operation has computed exactly becomes the double nearest to it.

* `Shifted` -- what is left after some shifts, and what is known of the rest;
* `roundedMantissa_eq` -- rounding that is rounding a quotient;
* `roundWithAccuracy_eq` -- a mantissa with enough bits becomes the nearest double;
* `round_eq`, `normalize_eq` -- and so does every mantissa, with zeros put behind it where they are
  needed.
-/

namespace MapQuery.Number

open Float.Model Float.Model.UnpackedFloat

/-! ## 1. Shifting -/

/-- What is left of a mantissa after some shifts. The first bit behind it tells whether the rest is
    half a unit or more, and the other one whether it is neither nothing nor just half a unit. -/
structure Shifted (m n : Nat) (em : ExtendedMantissa) : Prop where
  mantissa : em.mantissa = m / 2 ^ n
  half : em.roundBit = decide (2 ^ n ≤ 2 * (m % 2 ^ n))
  other : em.stickyBit = decide (2 * (m % 2 ^ n) ≠ 0 ∧ 2 * (m % 2 ^ n) ≠ 2 ^ n)

theorem shifted_zero (m : Nat) : Shifted m 0 (.ofMantissaAndAccuracy m .exact) := by
  refine ⟨(Nat.div_one m).symm, ?_, ?_⟩
  · rw [Nat.pow_zero, Nat.mod_one]
    rfl
  · rw [Nat.pow_zero, Nat.mod_one]
    rfl

/-- **One more shift.** -/
theorem Shifted.succ {m n : Nat} {em : ExtendedMantissa} (h : Shifted m n em) :
    Shifted m (n + 1) em.shiftRightOne := by
  obtain ⟨hmantissa, hhalf, hother⟩ := h
  have hpos : 0 < 2 ^ n := Nat.two_pow_pos n
  have hr : m % 2 ^ n < 2 ^ n := Nat.mod_lt _ hpos
  have hrest : m % 2 ^ (n + 1) = m % 2 ^ n + 2 ^ n * (m / 2 ^ n % 2) := Nat.mod_mul
  have hbit : m / 2 ^ n % 2 = 0 ∨ m / 2 ^ n % 2 = 1 := by omega
  refine ⟨?_, ?_, ?_⟩
  · show em.mantissa / 2 = _
    rw [hmantissa, Nat.div_div_eq_div_mul, Nat.pow_succ]
  · show (em.mantissa % 2 != 0) = _
    rw [hmantissa, hrest, Nat.pow_succ]
    rcases hbit with hbit | hbit
    · rw [hbit, decide_eq_false (by omega)]
      rfl
    · rw [hbit, decide_eq_true (by omega)]
      rfl
  · show (em.roundBit || em.stickyBit) = _
    rw [hhalf, hother, hrest, Nat.pow_succ, ← Bool.decide_or, decide_eq_decide]
    rcases hbit with hbit | hbit
    · rw [hbit]
      omega
    · rw [hbit]
      omega

theorem shifted_shiftRight (m n : Nat) :
    Shifted m n (ExtendedMantissa.ofMantissaAndAccuracy m .exact >>> n) := by
  induction n with
  | zero => exact shifted_zero m
  | succ n ih => exact ih.succ

/-- **What is kept is enough to round** as the quotient by the power of two is rounded. -/
theorem Shifted.roundedMantissa_eq {m n : Nat} {em : ExtendedMantissa} (h : Shifted m n em) :
    em.roundedMantissa = roundDiv m (2 ^ n) := by
  obtain ⟨q, half, other⟩ := em
  obtain ⟨hmantissa, hhalf, hother⟩ := h
  simp only at hmantissa hhalf hother
  have hpos : 0 < 2 ^ n := Nat.two_pow_pos n
  unfold roundDiv
  dsimp only
  rw [← hmantissa]
  generalize m % 2 ^ n = r at hhalf hother ⊢
  cases half with
  | false =>
    have hlt := of_decide_eq_false hhalf.symm
    rw [if_pos (by omega)]
    cases other <;> rfl
  | true =>
    have hle := of_decide_eq_true hhalf.symm
    rw [if_neg (by omega)]
    cases other with
    | false =>
      have htie := of_decide_eq_false hother.symm
      rw [if_neg (by omega)]
      rfl
    | true =>
      have hmore := of_decide_eq_true hother.symm
      rw [if_pos (by omega)]
      rfl

/-! ## 2. Rounding a mantissa -/

/-- The exponent that the machine gives to a mantissa, if it has enough bits. -/
theorem targetExponent_eq (m : Nat) (e : Int) :
    Format.binary64.targetExponent (totalExponent m e) = max minExponent (m.log2 + e - 52) := by
  have hleast : Format.binary64.minExponent = -1074 := rfl
  have hbits : (Format.binary64.mantissaBits : Int) = 53 := rfl
  unfold Format.targetExponent totalExponent minExponent
  rw [hleast, hbits]
  omega

/-- Shifting to an exponent that is no less than the present one. -/
theorem shiftToTargetExponent_eq {m k : Nat} {e : Int}
    (hk : max minExponent (m.log2 + e - 52) = e + k) :
    shiftToTargetExponent Format.binary64 m e .exact =
      (ExtendedMantissa.ofMantissaAndAccuracy m .exact >>> k, e + k) := by
  have hshift : (e + (k : Int) - e).toNat = k := by omega
  unfold shiftToTargetExponent shiftToExponent
  rw [targetExponent_eq, hk]
  simp only [hshift]

/-- A mantissa that has few enough bits already is not shifted. -/
theorem shiftToTargetExponent_small {m : Nat} {e : Int} (hm : m < 2 ^ 53) (he : minExponent ≤ e) :
    shiftToTargetExponent Format.binary64 m e .exact = (⟨m, false, false⟩, e) := by
  have hlog : m.log2 ≤ 52 := by
    by_cases hzero : m = 0
    · rw [hzero]
      decide
    · exact Nat.lt_succ_iff.mp ((Nat.log2_lt hzero).mpr hm)
  have hshift : (max minExponent (m.log2 + e - 52) - e).toNat = 0 := by omega
  unfold shiftToTargetExponent shiftToExponent
  rw [targetExponent_eq]
  simp only [hshift]
  rw [Int.natCast_zero, Int.add_zero]
  rfl

/-- A mantissa that was rounded up to one bit more loses that bit. -/
theorem shiftToTargetExponent_carry {e : Int} (he : minExponent ≤ e) :
    shiftToTargetExponent Format.binary64 (2 ^ 53) e .exact = (⟨2 ^ 52, false, false⟩, e + 1) := by
  have hk : max minExponent (((2 ^ 53 : Nat).log2 : Int) + e - 52) = e + (1 : Nat) := by
    rw [Nat.log2_two_pow]
    omega
  rw [shiftToTargetExponent_eq hk]
  rfl

/-- What is rounded is shifted twice: first to the exponent, and then a carry back. -/
theorem roundWithAccuracy_eq_unpacked (negative : Bool) (m : Nat) (e : Int) (a : Accuracy) :
    roundWithAccuracy Format.binary64 (signOf negative) m e a =
      let first := shiftToTargetExponent Format.binary64 m e a
      let second := shiftToTargetExponent Format.binary64 first.1.roundedMantissa first.2 .exact
      Magnitude.unpacked negative ⟨second.1.mantissa, second.2⟩ :=
  rfl

/-- **A mantissa with enough bits becomes the nearest double.** -/
theorem roundWithAccuracy_eq {m : Nat} {e : Int} (negative : Bool) (hm : 0 < m)
    (henough : 52 ≤ m.log2 ∨ e ≤ minExponent) :
    roundWithAccuracy Format.binary64 (signOf negative) m e .exact =
      (rounded (m * 2 ^ e)).unpacked negative := by
  obtain ⟨k, hk⟩ : ∃ k : Nat, max minExponent (m.log2 + e - 52) = e + k := by
    obtain ⟨k, hk⟩ := Int.eq_ofNat_of_zero_le (a := max minExponent (m.log2 + e - 52) - e)
      (by omega)
    exact ⟨k, by omega⟩
  have hleast : minExponent ≤ e + k := hk ▸ le_max_left _ _
  obtain ⟨hle, hrounded⟩ := rounded_binary hm hk
  rw [roundWithAccuracy_eq_unpacked, shiftToTargetExponent_eq hk, hrounded]
  dsimp only
  rw [(shifted_shiftRight m k).roundedMantissa_eq]
  by_cases hcarry : roundDiv m (2 ^ k) = 2 ^ 53
  · rw [if_pos hcarry, hcarry, shiftToTargetExponent_carry hleast]
  · rw [if_neg hcarry, shiftToTargetExponent_small (Nat.lt_of_le_of_ne hle hcarry) hleast]

/-! ## 3. Rounding anything -/

/-- Zeros behind a mantissa are counted by its logarithm. -/
theorem log2_mul_two_pow {m : Nat} (hm : m ≠ 0) (k : Nat) : (m * 2 ^ k).log2 = m.log2 + k := by
  induction k with
  | zero => rw [Nat.pow_zero, Nat.mul_one, Nat.add_zero]
  | succ k ih =>
    have hdouble : m * 2 ^ (k + 1) = 2 * (m * 2 ^ k) := by
      rw [Nat.pow_succ, ← Nat.mul_assoc, Nat.mul_comm]
    rw [hdouble, Nat.log2_two_mul (Nat.mul_ne_zero hm (Nat.two_pow_pos k).ne'), ih, Nat.add_assoc]

/-- **Every mantissa becomes the nearest double.** -/
theorem round_eq {m : Nat} (negative : Bool) (hm : 0 < m) (e : Int) :
    UnpackedFloat.round Format.binary64 (signOf negative) m e =
      (rounded (m * 2 ^ e)).unpacked negative := by
  unfold UnpackedFloat.round decreaseExponent
  rw [targetExponent_eq]
  dsimp only
  generalize hk : (e - max minExponent (m.log2 + e - 52)).toNat = k
  have hpos : 0 < m * 2 ^ k := Nat.mul_pos hm (Nat.two_pow_pos k)
  have henough : 52 ≤ (m * 2 ^ k).log2 ∨ e - k ≤ minExponent := by
    rw [log2_mul_two_pow hm.ne']
    omega
  have hsame : ((m * 2 ^ k : Nat) : ℚ) * 2 ^ (e - k) = m * 2 ^ e := by
    rw [zpow_sub₀ (by norm_num), zpow_natCast]
    push_cast
    field_simp
  rw [Nat.shiftLeft_eq, roundWithAccuracy_eq negative hpos henough, hsame]

/-- **So does every signed mantissa**, with a sign that is given for zero. -/
theorem normalize_eq (z : Int) (e : Int) (negative : Bool) :
    UnpackedFloat.normalize Format.binary64 z e (signOf negative) =
      (rounded (z * 2 ^ e)).unpacked (if z = 0 then negative else decide (z < 0)) := by
  unfold UnpackedFloat.normalize
  rcases lt_trichotomy z 0 with hz | hz | hz
  · have hsize : (((-z).toNat : Nat) : ℚ) = -z := by
      rw [← Int.cast_natCast, Int.toNat_of_nonneg (by omega), Int.cast_neg]
    rw [Int.compare_eq_lt.mpr hz, if_neg hz.ne, decide_eq_true hz]
    show UnpackedFloat.round Format.binary64 (signOf true) _ e = _
    rw [round_eq true (by omega), hsize, neg_mul, ← rounded_abs, abs_neg, rounded_abs]
  · subst hz
    rw [Int.compare_eq_eq.mpr rfl, if_pos rfl, Int.cast_zero, zero_mul]
    rfl
  · have hsize : ((z.toNat : Nat) : ℚ) = z := by
      rw [← Int.cast_natCast, Int.toNat_of_nonneg (by omega)]
    rw [Int.compare_eq_gt.mpr hz, if_neg hz.ne', decide_eq_false (by omega)]
    show UnpackedFloat.round Format.binary64 (signOf false) _ e = _
    rw [round_eq false (by omega), hsize]

end MapQuery.Number
