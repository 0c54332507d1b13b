import MapQuery.Number.Binary64
import Mathlib.Algebra.Order.Field.Power
import Mathlib.Algebra.Order.Floor.Semifield
import Mathlib.Data.Rat.Floor
import Mathlib.Tactic.FieldSimp
import Mathlib.Tactic.Linarith
import Mathlib.Tactic.NormNum
import Mathlib.Tactic.Positivity
import Mathlib.Tactic.Ring

/-!
# The nearest double grows with the quotient

Doubles are the multiples of a unit that doubles from one power of two to the next. Within one such
span a larger quotient is rounded to a larger multiple, and between two spans lies the power of two
at which the second begins, which is a double. So rounding keeps the order of quotients, and so does
cutting off what was rounded. Integers of at most 53 binary digits are not changed.

* `Magnitude.value`, `Magnitude.floor_eq` -- what a size stands for, and its integer part;
* `floorLog2_spec`, `unitOf` -- the span that a quotient lies in, and the unit there;
* `value_nearest` -- the nearest double as a multiple of the unit;
* `value_nearest_le`, `floor_nearest_le` -- rounding keeps the order;
* `value_nearest_of_multiple`, `floor_nearest_mul` -- what is a double already stays as it is.
-/

namespace MapQuery.Number

variable {num a b den d : Nat}

/-! ## 1. Sizes -/

/-- What a size stands for. -/
def Magnitude.value (x : Magnitude) : ℚ := x.m * 2 ^ x.e

theorem Magnitude.value_nonneg (x : Magnitude) : 0 ≤ x.value := by
  unfold value
  positivity

/-- **The integer part of a size is that of what it stands for.** -/
theorem Magnitude.floor_eq (x : Magnitude) : x.floor = ⌊x.value⌋₊ := by
  obtain ⟨m, e⟩ := x
  cases e with
  | ofNat k =>
    have hvalue : value ⟨m, .ofNat k⟩ = (m * 2 ^ k : Nat) := by
      simp [value, zpow_natCast]
    rw [hvalue, Nat.floor_natCast]
    exact Nat.div_one _
  | negSucc k =>
    have hvalue : value ⟨m, .negSucc k⟩ = (m : ℚ) / (2 ^ (k + 1) : Nat) := by
      simp [value, zpow_negSucc, div_eq_mul_inv]
    rw [hvalue, Nat.floor_div_eq_div]
    rfl

/-- A quotient by a power of two. -/
theorem scaled_div (num : Nat) {den : Nat} (hden : 0 < den) (e : Int) :
    0 < (scaled num den e).2 ∧
      ((scaled num den e).1 : ℚ) / (scaled num den e).2 = num / den / 2 ^ e := by
  have hden' : (den : ℚ) ≠ 0 := by positivity
  cases e with
  | ofNat k =>
    refine ⟨Nat.mul_pos hden (Nat.two_pow_pos k), ?_⟩
    simp [scaled, zpow_natCast]
    field_simp
  | negSucc k =>
    refine ⟨hden, ?_⟩
    simp [scaled, zpow_negSucc]
    field_simp

/-- Quotients with one denominator still have one, and stay in order. -/
theorem scaled_le (h : a ≤ b) (den : Nat) (e : Int) :
    (scaled a den e).2 = (scaled b den e).2 ∧ (scaled a den e).1 ≤ (scaled b den e).1 := by
  cases e with
  | ofNat k => exact ⟨rfl, h⟩
  | negSucc k => exact ⟨rfl, Nat.mul_le_mul_right _ h⟩

/-! ## 2. Rounding to integers -/

/-- **A larger numerator is not rounded to less.** -/
theorem roundDiv_le_roundDiv (h : a ≤ b) (d : Nat) : roundDiv a d ≤ roundDiv b d := by
  have hquotient : a / d ≤ b / d := Nat.div_le_div_right h
  have ha := Nat.div_add_mod a d
  have hb := Nat.div_add_mod b d
  unfold roundDiv
  dsimp only
  rcases Nat.lt_or_eq_of_le hquotient with hlt | heq
  · split_ifs <;> omega
  · rw [heq] at ha ⊢
    have hremainder : a % d ≤ b % d := by omega
    split_ifs <;> omega

theorem roundDiv_mul (k : Nat) (hd : 0 < d) : roundDiv (k * d) d = k := by
  unfold roundDiv
  dsimp only
  rw [Nat.mul_mod_left, Nat.mul_div_cancel _ hd, if_pos (by omega)]

/-! ## 3. The unit -/

theorem zpow_two_lt_iff {k l : Int} : (2 : ℚ) ^ k < 2 ^ l ↔ k < l :=
  zpow_lt_zpow_iff_right₀ (by norm_num)

theorem zpow_two_le_iff {k l : Int} : (2 : ℚ) ^ k ≤ 2 ^ l ↔ k ≤ l :=
  zpow_le_zpow_iff_right₀ (by norm_num)

/-- The powers of two between which a number lies. -/
theorem log2_spec {n : Nat} (hn : n ≠ 0) :
    (2 : ℚ) ^ (n.log2 : Int) ≤ n ∧ (n : ℚ) < 2 ^ ((n.log2 : Int) + 1) := by
  have hlow : 2 ^ n.log2 ≤ n := Nat.log2_self_le hn
  have hhigh : n < 2 ^ (n.log2 + 1) := Nat.lt_log2_self
  constructor
  · rw [zpow_natCast]
    exact_mod_cast hlow
  · exact_mod_cast hhigh

/-- **The powers of two between which a quotient lies.** -/
theorem floorLog2_spec (hnum : num ≠ 0) (hden : den ≠ 0) :
    (2 : ℚ) ^ floorLog2 num den ≤ num / den ∧ (num : ℚ) / den < 2 ^ (floorLog2 num den + 1) := by
  have hpos : (0 : ℚ) < den := by positivity
  obtain ⟨hnumLow, hnumHigh⟩ := log2_spec hnum
  obtain ⟨hdenLow, hdenHigh⟩ := log2_spec hden
  generalize hk : (num.log2 : Int) - den.log2 = k
  have hlow : (2 : ℚ) ^ (k - 1) ≤ num / den := by
    rw [le_div_iff₀ hpos]
    calc (2 : ℚ) ^ (k - 1) * den ≤ 2 ^ (k - 1) * 2 ^ ((den.log2 : Int) + 1) := by
          gcongr
      _ = 2 ^ (num.log2 : Int) := by
          rw [← zpow_add₀ (by norm_num)]
          congr 1
          omega
      _ ≤ num := hnumLow
  have hhigh : (num : ℚ) / den < 2 ^ (k + 1) := by
    rw [div_lt_iff₀ hpos]
    calc (num : ℚ) < 2 ^ ((num.log2 : Int) + 1) := hnumHigh
      _ = 2 ^ (k + 1) * 2 ^ (den.log2 : Int) := by
          rw [← zpow_add₀ (by norm_num)]
          congr 1
          omega
      _ ≤ 2 ^ (k + 1) * den := by gcongr
  obtain ⟨hpos', hscaled⟩ := scaled_div num (Nat.pos_of_ne_zero hden) k
  have hbelow : (scaled num den k).1 < (scaled num den k).2 ↔ (num : ℚ) / den < 2 ^ k := by
    have hcast : ((0 : Nat) : ℚ) < ((scaled num den k).2 : ℚ) := Nat.cast_lt.mpr hpos'
    rw [← div_lt_one (by positivity : (0 : ℚ) < 2 ^ k), ← hscaled,
      div_lt_one (by simpa using hcast), Nat.cast_lt]
  unfold floorLog2
  dsimp only
  rw [hk]
  split
  · next h => exact ⟨hlow, by simpa using hbelow.mp h⟩
  · next h => exact ⟨not_lt.mp fun hlt => h (hbelow.mpr hlt), hhigh⟩

theorem floorLog2_le (ha : a ≠ 0) (hden : den ≠ 0) (h : a ≤ b) :
    floorLog2 a den ≤ floorLog2 b den := by
  have hle : (a : ℚ) / den ≤ b / den := by gcongr
  have hlt := ((floorLog2_spec ha hden).1.trans hle).trans_lt
    (floorLog2_spec (by omega : b ≠ 0) hden).2
  exact Int.lt_add_one_iff.mp (zpow_two_lt_iff.mp hlt)

/-- The exponent of the unit of which the doubles around a quotient are multiples. -/
def unitOf (num den : Nat) : Int := max minExponent (floorLog2 num den - 52)

/-- The multiple of the unit that a quotient is rounded to. -/
def multipleOf (num den : Nat) (e : Int) : Nat :=
  roundDiv (scaled num den e).1 (scaled num den e).2

/-- **The nearest double is a multiple of the unit.** -/
theorem value_nearest (hnum : num ≠ 0) (hden : den ≠ 0) :
    (nearest num den).value = multipleOf num den (unitOf num den) * 2 ^ unitOf num den := by
  have hnot : ¬ (num = 0 ∨ den = 0) := by simp [hnum, hden]
  unfold nearest
  rw [if_neg hnot]
  show Magnitude.value (if multipleOf num den (unitOf num den) = Nat.pow 2 53 then
    ⟨Nat.pow 2 52, unitOf num den + 1⟩ else ⟨multipleOf num den (unitOf num den), _⟩) = _
  split
  · next h =>
    rw [h]
    simp only [Magnitude.value, Nat.pow_eq]
    rw [zpow_add_one₀ (by norm_num)]
    push_cast
    ring
  · rfl

/-- Rounding does not lead beyond the span: the multiple is at most `2 ^ 53`. -/
theorem multipleOf_le (hnum : num ≠ 0) (hden : den ≠ 0) :
    multipleOf num den (unitOf num den) ≤ 2 ^ 53 := by
  obtain ⟨hpos, hscaled⟩ := scaled_div num (Nat.pos_of_ne_zero hden) (unitOf num den)
  have hunit : floorLog2 num den + 1 ≤ 53 + unitOf num den := by
    unfold unitOf
    omega
  have hlt : (num : ℚ) / den < 2 ^ 53 * 2 ^ unitOf num den := by
    calc (num : ℚ) / den < 2 ^ (floorLog2 num den + 1) := (floorLog2_spec hnum hden).2
      _ ≤ 2 ^ (53 + unitOf num den) := zpow_two_le_iff.mpr hunit
      _ = 2 ^ 53 * 2 ^ unitOf num den := by rw [zpow_add₀ (by norm_num)]; norm_num
  rw [← div_lt_iff₀ (by positivity), ← hscaled, div_lt_iff₀ (by positivity)] at hlt
  unfold multipleOf
  rw [← roundDiv_mul (2 ^ 53) hpos]
  exact roundDiv_le_roundDiv (Nat.le_of_lt (by exact_mod_cast hlt)) _

/-- Nor does it lead below the span: the multiple is at least `2 ^ 52`, unless the unit is the
    least. -/
theorem le_multipleOf (hnum : num ≠ 0) (hden : den ≠ 0) (h : minExponent < unitOf num den) :
    2 ^ 52 ≤ multipleOf num den (unitOf num den) := by
  obtain ⟨hpos, hscaled⟩ := scaled_div num (Nat.pos_of_ne_zero hden) (unitOf num den)
  have hunit : floorLog2 num den = 52 + unitOf num den := by
    unfold unitOf at h ⊢
    omega
  have hle : (2 : ℚ) ^ 52 * 2 ^ unitOf num den ≤ num / den := by
    calc (2 : ℚ) ^ 52 * 2 ^ unitOf num den = 2 ^ floorLog2 num den := by
          rw [hunit, zpow_add₀ (by norm_num)]
          norm_num
      _ ≤ num / den := (floorLog2_spec hnum hden).1
  rw [← le_div_iff₀ (by positivity), ← hscaled, le_div_iff₀ (by positivity)] at hle
  unfold multipleOf
  rw [← roundDiv_mul (2 ^ 52) hpos]
  exact roundDiv_le_roundDiv (by exact_mod_cast hle) _

/-! ## 4. Order -/

/-- **Rounding keeps the order of quotients.** -/
theorem value_nearest_le (h : a ≤ b) (den : Nat) :
    (nearest a den).value ≤ (nearest b den).value := by
  by_cases hzero : a = 0 ∨ den = 0
  · have hnearest : nearest a den = ⟨0, minExponent⟩ := if_pos hzero
    rw [hnearest]
    simpa [Magnitude.value] using (nearest b den).value_nonneg
  · obtain ⟨ha, hden⟩ := not_or.mp hzero
    have hb : b ≠ 0 := by omega
    have hunit : unitOf a den ≤ unitOf b den := by
      have hlog := floorLog2_le ha hden h
      unfold unitOf
      omega
    rw [value_nearest ha hden, value_nearest hb hden]
    rcases Int.lt_or_eq_of_le hunit with hlt | heq
    · -- the second span begins where the first ends, or later
      have hleast : minExponent < unitOf b den :=
        Int.lt_of_le_of_lt (le_max_left _ _) hlt
      calc (multipleOf a den (unitOf a den) : ℚ) * 2 ^ unitOf a den
          ≤ (2 ^ 53 : Nat) * 2 ^ unitOf a den := by
            gcongr
            exact multipleOf_le ha hden
        _ = 2 ^ 52 * 2 ^ (unitOf a den + 1) := by
            rw [zpow_add_one₀ (by norm_num)]
            push_cast
            ring
        _ ≤ 2 ^ 52 * 2 ^ unitOf b den := by
            gcongr
            · norm_num
            · omega
        _ ≤ multipleOf b den (unitOf b den) * 2 ^ unitOf b den := by
            gcongr
            exact_mod_cast le_multipleOf hb hden hleast
    · obtain ⟨hsame, hscaled⟩ := scaled_le h den (unitOf b den)
      rw [heq]
      gcongr
      unfold multipleOf
      rw [hsame]
      exact roundDiv_le_roundDiv hscaled _

theorem floor_nearest_le (h : a ≤ b) (den : Nat) :
    (nearest a den).floor ≤ (nearest b den).floor := by
  rw [Magnitude.floor_eq, Magnitude.floor_eq]
  exact Nat.floor_mono (value_nearest_le h den)

/-! ## 5. Integers -/

/-- **A multiple of the unit is not rounded.** -/
theorem value_nearest_of_multiple (hnum : num ≠ 0) (hden : den ≠ 0) {k : Nat}
    (h : (num : ℚ) / den = k * 2 ^ unitOf num den) : (nearest num den).value = num / den := by
  obtain ⟨hpos, hscaled⟩ := scaled_div num (Nat.pos_of_ne_zero hden) (unitOf num den)
  have hexact : (scaled num den (unitOf num den)).1 = k * (scaled num den (unitOf num den)).2 := by
    rw [h, mul_div_assoc, div_self (by positivity), mul_one, div_eq_iff (by positivity)] at hscaled
    exact_mod_cast hscaled
  rw [value_nearest hnum hden, multipleOf, hexact, roundDiv_mul k hpos, h]

/-- The unit of a quotient of at most 53 binary digits is 1 or a part of it. -/
theorem unitOf_nonpos (hnum : num ≠ 0) (hden : den ≠ 0) (h : (num : ℚ) / den < 2 ^ 53) :
    unitOf num den ≤ 0 := by
  have hlt : (2 : ℚ) ^ floorLog2 num den < 2 ^ (53 : Int) :=
    (floorLog2_spec hnum hden).1.trans_lt (by exact_mod_cast h)
  have hlog := zpow_two_lt_iff.mp hlt
  unfold unitOf minExponent
  omega

/-- **An integer of at most 53 binary digits is a double.** -/
theorem floor_nearest_mul {n : Nat} (hn : n < 2 ^ 53) (hden : 0 < den) :
    (nearest (n * den) den).floor = n := by
  rw [Magnitude.floor_eq]
  by_cases hzero : n = 0
  · subst hzero
    rw [Nat.zero_mul]
    have hnearest : nearest 0 den = ⟨0, minExponent⟩ := if_pos (.inl rfl)
    simp [hnearest, Magnitude.value]
  · have hnum : n * den ≠ 0 := Nat.mul_ne_zero hzero hden.ne'
    have hquotient : ((n * den : Nat) : ℚ) / den = n := by
      have hden' : (den : ℚ) ≠ 0 := by positivity
      push_cast
      field_simp
    have hunit : unitOf (n * den) den ≤ 0 :=
      unitOf_nonpos hnum hden.ne' (by rw [hquotient]; exact_mod_cast hn)
    obtain ⟨k, hk⟩ : ∃ k : Nat, unitOf (n * den) den = -k := Int.exists_eq_neg_ofNat hunit
    -- in units the integer is its multiple by a power of two
    have hmultiple : ((n * den : Nat) : ℚ) / den =
        (n * 2 ^ k : Nat) * 2 ^ unitOf (n * den) den := by
      rw [hquotient, hk, zpow_neg, zpow_natCast]
      push_cast
      field_simp
    rw [value_nearest_of_multiple hnum hden.ne' hmultiple, hquotient, Nat.floor_natCast]

end MapQuery.Number
