import MapQuery.Proofs.Number.Nearest

/-!
# The double nearest to a rational number

How a quotient is rounded depends on its value, and not on the numerator and the denominator that
give it. So the nearest double is a function of a rational number, of which only the size counts
here. What comes out has the form that every double has, and a double is nearest to itself.

* `roundDiv_congr`, `nearest_congr` -- rounding depends on the value of the quotient;
* `rounded` -- the double nearest to the size of a rational number;
* `Magnitude.Canonical`, `canonical_rounded` -- the form of a double;
* `rounded_binary`, `rounded_value` -- binary numbers are rounded by dropping digits, doubles not at
  all;
* `value_rounded_le`, `m_rounded_eq_zero_iff` -- order, and what is rounded to zero.
-/

namespace MapQuery.Number

variable {num den num' den' : Nat}

/-! ## 1. The value of a quotient -/

/-- A factor of numerator and denominator does not matter. -/
theorem roundDiv_mul_right (num den : Nat) {c : Nat} (hc : 0 < c) :
    roundDiv (num * c) (den * c) = roundDiv num den := by
  have hdouble : 2 * (num % den * c) = 2 * (num % den) * c := (Nat.mul_assoc 2 _ c).symm
  unfold roundDiv
  dsimp only
  rw [Nat.mul_div_mul_right _ _ hc, Nat.mul_mod_mul_right, hdouble]
  simp only [Nat.mul_lt_mul_right hc]

/-- **Equal quotients are rounded alike.** -/
theorem roundDiv_congr (hden : 0 < den) (hden' : 0 < den')
    (h : (num : ℚ) / den = num' / den') : roundDiv num den = roundDiv num' den' := by
  have hcross : num * den' = num' * den := by
    rw [div_eq_div_iff (by positivity) (by positivity)] at h
    exact_mod_cast h
  rw [← roundDiv_mul_right num den hden', hcross, ← roundDiv_mul_right num' den' hden,
    Nat.mul_comm den den']

/-- There is one pair of powers of two between which a quotient lies. -/
theorem floorLog2_eq {k : Int} (hden : den ≠ 0) (hlow : (2 : ℚ) ^ k ≤ num / den)
    (hhigh : (num : ℚ) / den < 2 ^ (k + 1)) : floorLog2 num den = k := by
  have hnum : num ≠ 0 := by
    rintro rfl
    have hpos : (0 : ℚ) < 2 ^ k := by positivity
    simp only [Nat.cast_zero, zero_div] at hlow
    exact absurd hlow (not_le.mpr hpos)
  obtain ⟨hlow', hhigh'⟩ := floorLog2_spec hnum hden
  have hle := zpow_two_lt_iff.mp (hlow'.trans_lt hhigh)
  have hge := zpow_two_lt_iff.mp (hlow.trans_lt hhigh')
  omega

theorem floorLog2_congr (hnum : num ≠ 0) (hden : den ≠ 0) (hden' : den' ≠ 0)
    (h : (num : ℚ) / den = num' / den') : floorLog2 num den = floorLog2 num' den' := by
  obtain ⟨hlow, hhigh⟩ := floorLog2_spec hnum hden
  rw [h] at hlow hhigh
  exact (floorLog2_eq hden' hlow hhigh).symm

theorem multipleOf_congr (hden : den ≠ 0) (hden' : den' ≠ 0)
    (h : (num : ℚ) / den = num' / den') (e : Int) :
    multipleOf num den e = multipleOf num' den' e := by
  obtain ⟨hpos, hscaled⟩ := scaled_div num (Nat.pos_of_ne_zero hden) e
  obtain ⟨hpos', hscaled'⟩ := scaled_div num' (Nat.pos_of_ne_zero hden') e
  exact roundDiv_congr hpos hpos' (by rw [hscaled, hscaled', h])

/-- The nearest double, by the unit and the multiple of it. -/
theorem nearest_eq (hnum : num ≠ 0) (hden : den ≠ 0) :
    nearest num den =
      if multipleOf num den (unitOf num den) = 2 ^ 53 then ⟨2 ^ 52, unitOf num den + 1⟩
      else ⟨multipleOf num den (unitOf num den), unitOf num den⟩ := by
  unfold nearest
  rw [if_neg (by simp [hnum, hden])]
  rfl

/-- **The nearest double depends on the value of the quotient.** -/
theorem nearest_congr (hden : den ≠ 0) (hden' : den' ≠ 0)
    (h : (num : ℚ) / den = num' / den') : nearest num den = nearest num' den' := by
  have hcast : (den : ℚ) ≠ 0 := by exact_mod_cast hden
  have hcast' : (den' : ℚ) ≠ 0 := by exact_mod_cast hden'
  have hzero : num = 0 ↔ num' = 0 := by
    rw [div_eq_div_iff hcast hcast'] at h
    have hcross : num * den' = num' * den := by exact_mod_cast h
    constructor
    · rintro rfl
      simpa [hden] using hcross
    · rintro rfl
      simpa [hden'] using hcross
  by_cases hnum : num = 0
  · unfold nearest
    rw [if_pos (.inl hnum), if_pos (.inl (hzero.mp hnum))]
  · have hunit : unitOf num den = unitOf num' den' := by
      unfold unitOf
      rw [floorLog2_congr hnum hden hden' h]
    rw [nearest_eq hnum hden, nearest_eq (mt hzero.mpr hnum) hden', hunit,
      multipleOf_congr hden hden' h]

/-! ## 2. Rational numbers -/

/-- The double nearest to the size of a rational number, exponents above the greatest included. -/
def rounded (q : ℚ) : Magnitude := nearest q.num.natAbs q.den

theorem rounded_zero : rounded 0 = ⟨0, minExponent⟩ :=
  rfl

theorem abs_eq_natAbs_div (q : ℚ) : |q| = (q.num.natAbs : ℚ) / q.den := by
  rw [Nat.cast_natAbs, Int.cast_abs, ← Nat.abs_cast q.den, ← abs_div, Rat.num_div_den]

theorem rounded_eq_nearest {q : ℚ} (hden : den ≠ 0) (h : |q| = num / den) :
    rounded q = nearest num den :=
  nearest_congr q.den_nz hden (by rw [← abs_eq_natAbs_div, h])

/-- A natural number by a power of two. -/
theorem rounded_natCast_mul (n k : Nat) : rounded (n * 2 ^ (-(k : Int))) = nearest n (2 ^ k) := by
  refine rounded_eq_nearest (Nat.two_pow_pos k).ne' ?_
  rw [abs_of_nonneg (by positivity), zpow_neg, zpow_natCast, ← div_eq_mul_inv]
  push_cast
  rfl

/-- The sign does not matter. -/
theorem rounded_abs (q : ℚ) : rounded |q| = rounded q :=
  rounded_eq_nearest q.den_nz (by rw [abs_abs, abs_eq_natAbs_div])

/-- **Rounding keeps the order of sizes.** -/
theorem value_rounded_le {q r : ℚ} (h : |q| ≤ |r|) : (rounded q).value ≤ (rounded r).value := by
  have hq : (0 : ℚ) < q.den := by exact_mod_cast q.den_pos
  have hr : (0 : ℚ) < r.den := by exact_mod_cast r.den_pos
  have hden : q.den * r.den ≠ 0 := Nat.mul_ne_zero q.den_nz r.den_nz
  have hleft : |q| = (q.num.natAbs * r.den : Nat) / (q.den * r.den : Nat) := by
    rw [abs_eq_natAbs_div]
    push_cast
    field_simp
  have hright : |r| = (r.num.natAbs * q.den : Nat) / (q.den * r.den : Nat) := by
    rw [abs_eq_natAbs_div]
    push_cast
    field_simp
  have hle : q.num.natAbs * r.den ≤ r.num.natAbs * q.den := by
    rw [hleft, hright, div_le_div_iff_of_pos_right (by positivity)] at h
    exact_mod_cast h
  rw [rounded_eq_nearest hden hleft, rounded_eq_nearest hden hright]
  exact value_nearest_le hle _

/-! ## 3. The form of a double -/

/-- A size as a double has it: 53 binary digits at most, and no fewer unless the exponent is the
    least. -/
structure Magnitude.Canonical (x : Magnitude) : Prop where
  lt : x.m < 2 ^ 53
  le : minExponent ≤ x.e
  normal : 2 ^ 52 ≤ x.m ∨ x.e = minExponent

theorem Magnitude.value_zero (e : Int) : value ⟨0, e⟩ = 0 := by
  unfold value
  rw [Nat.cast_zero, zero_mul]

theorem Magnitude.canonical_zero : Canonical ⟨0, minExponent⟩ :=
  ⟨by decide, Int.le_refl _, .inr rfl⟩

theorem Magnitude.Canonical.e_of_m {x : Magnitude} (h : x.Canonical) (hm : x.m = 0) :
    x = ⟨0, minExponent⟩ := by
  obtain ⟨m, e⟩ := x
  have he : e = minExponent := h.normal.resolve_left (by rw [hm]; decide)
  rw [he, show m = 0 from hm]

/-- **The nearest double has the form of a double**, up to its greatest exponent. -/
theorem canonical_nearest (num den : Nat) : (nearest num den).Canonical := by
  by_cases hzero : num = 0 ∨ den = 0
  · have hnearest : nearest num den = ⟨0, minExponent⟩ := if_pos hzero
    rw [hnearest]
    exact Magnitude.canonical_zero
  · obtain ⟨hnum, hden⟩ := not_or.mp hzero
    have hunit : minExponent ≤ unitOf num den := le_max_left _ _
    have hle := multipleOf_le hnum hden
    rw [nearest_eq hnum hden]
    split
    · exact ⟨by show 2 ^ 52 < 2 ^ 53; decide, Int.le_trans hunit (Int.le_add_one (Int.le_refl _)),
        .inl (Nat.le_refl _)⟩
    · next hcarry =>
      refine ⟨Nat.lt_of_le_of_ne hle hcarry, hunit, ?_⟩
      rcases Int.lt_or_eq_of_le hunit with hlt | heq
      · exact .inl (le_multipleOf hnum hden hlt)
      · exact .inr heq.symm

theorem canonical_rounded (q : ℚ) : (rounded q).Canonical :=
  canonical_nearest _ _

/-- What has an exponent above the greatest is larger than 1. -/
theorem Magnitude.Canonical.one_le_value {x : Magnitude} (h : x.Canonical)
    (hlarge : maxExponent < x.e) : 1 ≤ x.value := by
  unfold maxExponent at hlarge
  have hm : 1 ≤ x.m := by
    rcases h.normal with hnormal | hleast
    · exact Nat.le_trans (Nat.two_pow_pos 52) hnormal
    · unfold minExponent at hleast
      omega
  have hpower : (2 : ℚ) ^ (0 : Int) ≤ 2 ^ x.e := zpow_two_le_iff.mpr (by omega)
  rw [zpow_zero] at hpower
  exact one_le_mul_of_one_le_of_one_le (by exact_mod_cast hm) hpower

/-! ## 4. Binary numbers -/

/-- What a size stands for, as a quotient. -/
theorem Magnitude.value_eq_div (x : Magnitude) :
    x.toQuotient.2 ≠ 0 ∧ x.value = x.toQuotient.1 / x.toQuotient.2 := by
  obtain ⟨m, e⟩ := x
  cases e with
  | ofNat k =>
    refine ⟨Nat.one_ne_zero, ?_⟩
    simp [value, toQuotient, zpow_natCast]
  | negSucc k =>
    refine ⟨(Nat.two_pow_pos (k + 1)).ne', ?_⟩
    simp [value, toQuotient, zpow_negSucc, div_eq_mul_inv]

section Binary

variable {m k : Nat} {e : Int}

/-- The unit of a binary number is found by counting its digits. -/
theorem unitOf_binary (hm : 0 < m) (hden : den ≠ 0) (hvalue : (m : ℚ) * 2 ^ e = num / den) :
    num ≠ 0 ∧ unitOf num den = max minExponent (m.log2 + e - 52) := by
  have hnum : num ≠ 0 := by
    rintro rfl
    have hpos : (0 : ℚ) < m * 2 ^ e := by positivity
    rw [hvalue, Nat.cast_zero, zero_div] at hpos
    exact lt_irrefl _ hpos
  obtain ⟨hlow, hhigh⟩ := log2_spec hm.ne'
  have hlog : floorLog2 num den = m.log2 + e := by
    refine floorLog2_eq hden ?_ ?_
    · rw [← hvalue, zpow_add₀ (by norm_num)]
      gcongr
    · rw [← hvalue, add_right_comm, zpow_add₀ (by norm_num)]
      gcongr
  refine ⟨hnum, ?_⟩
  unfold unitOf
  rw [hlog]

/-- A binary number is a multiple of a larger unit up to what its last digits are. -/
theorem multipleOf_binary (hden : den ≠ 0) (hvalue : (m : ℚ) * 2 ^ e = num / den) (k : Nat) :
    multipleOf num den (e + k) = roundDiv m (2 ^ k) := by
  obtain ⟨hpos, hscaled⟩ := scaled_div num (Nat.pos_of_ne_zero hden) (e + k)
  refine roundDiv_congr hpos (Nat.two_pow_pos k) ?_
  rw [hscaled, ← hvalue, zpow_add₀ (by norm_num), zpow_natCast]
  push_cast
  field_simp

/-- **A binary number is rounded by dropping its last digits**, so many that 53 are left or the
    exponent is the least. -/
theorem rounded_binary (hm : 0 < m) (hk : max minExponent (m.log2 + e - 52) = e + k) :
    roundDiv m (2 ^ k) ≤ 2 ^ 53 ∧
      rounded (m * 2 ^ e) =
        if roundDiv m (2 ^ k) = 2 ^ 53 then ⟨2 ^ 52, e + k + 1⟩
        else ⟨roundDiv m (2 ^ k), e + k⟩ := by
  obtain ⟨hden, hvalue⟩ := Magnitude.value_eq_div ⟨m, e⟩
  unfold Magnitude.value at hvalue
  obtain ⟨hnum, hunit⟩ := unitOf_binary hm hden hvalue
  have hmultiple := multipleOf_binary hden hvalue k
  have hle := multipleOf_le hnum hden
  have hsize : |(m : ℚ) * 2 ^ e| = _ := (abs_of_nonneg (by positivity)).trans hvalue
  rw [hunit, hk, hmultiple] at hle
  refine ⟨hle, ?_⟩
  rw [rounded_eq_nearest hden hsize, nearest_eq hnum hden, hunit, hk, hmultiple]

/-- **A double is nearest to itself.** -/
theorem rounded_value {x : Magnitude} (h : x.Canonical) : rounded x.value = x := by
  obtain ⟨m, e⟩ := x
  rcases Nat.eq_zero_or_pos m with hm | hm
  · rw [h.e_of_m hm, Magnitude.value_zero, rounded_zero]
  · obtain ⟨hlt, hle, hnormal⟩ := h
    have hlog : m.log2 < 53 := (Nat.log2_lt hm.ne').mpr hlt
    have hk : max minExponent (m.log2 + e - 52) = e + (0 : Nat) := by
      rcases hnormal with hnormal | hleast
      · have hdigits : 52 ≤ m.log2 := (Nat.le_log2 hm.ne').mpr hnormal
        simp only at hle
        omega
      · simp only at hleast
        omega
    have hwhole : roundDiv m (2 ^ 0) = m := by
      simpa using roundDiv_mul m Nat.one_pos
    obtain ⟨-, hrounded⟩ := rounded_binary hm hk
    rw [hwhole, if_neg hlt.ne, Int.natCast_zero, Int.add_zero] at hrounded
    exact hrounded

end Binary

/-! ## 5. What is rounded to zero -/

theorem roundDiv_eq_zero_iff (num : Nat) (hden : 0 < den) :
    roundDiv num den = 0 ↔ 2 * num ≤ den := by
  have hdm := Nat.div_add_mod num den
  have hr : num % den < den := Nat.mod_lt _ hden
  unfold roundDiv
  dsimp only
  generalize num / den = q at hdm ⊢
  generalize num % den = r at hdm hr ⊢
  rcases Nat.eq_zero_or_pos q with hq | hq
  · subst hq
    rw [Nat.mul_zero, Nat.zero_add] at hdm
    split
    · omega
    · split <;> omega
  · have hle : den ≤ den * q := Nat.le_mul_of_pos_right den hq
    split
    · omega
    · split <;> omega

theorem multipleOf_eq_zero_iff (num : Nat) (hden : den ≠ 0) (e : Int) :
    multipleOf num den e = 0 ↔ (num : ℚ) / den ≤ 2 ^ (e - 1) := by
  obtain ⟨hpos, hscaled⟩ := scaled_div num (Nat.pos_of_ne_zero hden) e
  have hcast : (0 : ℚ) < (scaled num den e).2 := by exact_mod_cast hpos
  unfold multipleOf
  rw [roundDiv_eq_zero_iff _ hpos, zpow_sub_one₀ (by norm_num), ← div_le_iff₀' (by positivity),
    ← hscaled, div_le_iff₀ hcast, ← div_eq_inv_mul, le_div_iff₀' (by norm_num)]
  exact_mod_cast Iff.rfl

/-- **What is at most half of the least double is rounded to zero**, and nothing else is. -/
theorem m_rounded_eq_zero_iff (q : ℚ) :
    (rounded q).m = 0 ↔ |q| ≤ 2 ^ (minExponent - 1) := by
  by_cases hq : q = 0
  · subst hq
    have hpos : (0 : ℚ) ≤ 2 ^ (minExponent - 1) := by positivity
    simpa using ⟨fun _ => hpos, fun _ => rfl⟩
  · have hnum : q.num.natAbs ≠ 0 := by simpa using hq
    have hcarry : (rounded q).m = 0 ↔
        multipleOf q.num.natAbs q.den (unitOf q.num.natAbs q.den) = 0 := by
      unfold rounded
      rw [nearest_eq hnum q.den_nz]
      split
      · next h => simp [h]
      · rfl
    rw [hcarry, abs_eq_natAbs_div]
    have hunit : minExponent ≤ unitOf q.num.natAbs q.den := le_max_left _ _
    rcases Int.lt_or_eq_of_le hunit with hlt | heq
    · -- from the second span on, neither is the case
      have hmultiple := le_multipleOf hnum q.den_nz hlt
      have hlog : minExponent - 1 < floorLog2 q.num.natAbs q.den := by
        unfold unitOf at hlt
        omega
      have hlow := (zpow_two_lt_iff.mpr hlog).trans_le (floorLog2_spec hnum q.den_nz).1
      exact ⟨fun h => by omega, fun h => absurd h (not_le.mpr hlow)⟩
    · rw [← heq, multipleOf_eq_zero_iff _ q.den_nz]

end MapQuery.Number
