import MapQuery.Map.Plane
import MapQuery.Proofs.Number.Arithmetic

/-!
# Where the closest point of a segment is found

The share of a segment at which the closest point lies is a quotient by the square of its length.
A segment without length is told apart before, by the differences of its coordinates; but squares of
doubles become zero long before the doubles do. Differences of at most about `1.57e-162` have no
square, and where both are that small, but not both zero, the quotient is one by zero.

* `blind` -- the largest difference of coordinates without a square;
* `square_of_difference` -- a difference has no square if it is no larger;
* `closest_found_iff` -- the segments on which a closest point is found.
-/

namespace MapQuery.Plane

open Number

/-! ## 1. Differences without a square -/

/-- The largest difference of coordinates whose square is rounded to zero: half a unit above the
    largest double with such a square, to which it is still rounded. -/
def blind : ℚ := 12738103345051545 * 2 ^ (-591 : Int)

/-- How many times the largest difference without a square is the least double. -/
def blindUnits : Nat := 12738103345051545 * 2 ^ 483

theorem blind_pos : 0 < blind := by
  unfold blind
  positivity

theorem blind_eq_multiple : blind = (blindUnits : ℚ) * 2 ^ minExponent := by
  have hexponent : (-591 : Int) = (483 : Nat) + minExponent := rfl
  unfold blind blindUnits
  rw [hexponent, zpow_add₀ (by norm_num), zpow_natCast, Nat.cast_mul, Nat.cast_pow, mul_assoc]
  rfl

theorem rounded_blindUnits :
    rounded (blindUnits * 2 ^ minExponent) = ⟨6369051672525772, -590⟩ :=
  (rounded_natCast_mul blindUnits 1074).trans (by decide +kernel)

theorem rounded_blindUnits_succ :
    rounded ((blindUnits + 1 : Nat) * 2 ^ minExponent) = ⟨6369051672525773, -590⟩ :=
  (rounded_natCast_mul (blindUnits + 1) 1074).trans (by decide +kernel)

/-- Rounding keeps the order of multiples of the least double. -/
theorem value_rounded_units_le {m n : Nat} (h : m ≤ n) :
    (rounded (m * 2 ^ minExponent)).value ≤ (rounded (n * 2 ^ minExponent)).value := by
  refine value_rounded_le ?_
  rw [abs_of_nonneg (by positivity), abs_of_nonneg (by positivity)]
  gcongr

/-- The square of a double in this span, in halves of the least double. -/
theorem value_mul_self (m : Nat) : Magnitude.value ⟨m, -590⟩ * Magnitude.value ⟨m, -590⟩ =
    (m * m : Nat) / 2 ^ 105 * 2 ^ (minExponent - 1) := by
  have hexponent : (-590 : Int) + -590 = minExponent - 1 - (105 : Nat) := rfl
  unfold Magnitude.value
  rw [mul_mul_mul_comm, ← zpow_add₀ (by norm_num), hexponent, zpow_sub₀ (by norm_num),
    zpow_natCast, Nat.cast_mul]
  ring

/-- **The square of a rounded difference is rounded to zero up to that limit**, and not beyond. -/
theorem square_rounded_le_iff (k : Int) :
    (rounded (k * 2 ^ minExponent)).value * (rounded (k * 2 ^ minExponent)).value ≤
      2 ^ (minExponent - 1) ↔ |(k : ℚ) * 2 ^ minExponent| ≤ blind := by
  have hunit : (0 : ℚ) < 2 ^ minExponent := by positivity
  have hhalf : (0 : ℚ) < 2 ^ (minExponent - 1) := by positivity
  have hsize : |(k : ℚ) * 2 ^ minExponent| = |(k.natAbs : ℚ) * 2 ^ minExponent| := by
    rw [abs_mul, abs_mul, Nat.cast_natAbs, Int.cast_abs, abs_abs]
  rw [← rounded_abs, hsize, rounded_abs, abs_of_nonneg (by positivity), blind_eq_multiple,
    mul_le_mul_iff_left₀ hunit, Nat.cast_le]
  constructor
  · intro hsquare
    by_contra hlarge
    have hnext : blindUnits + 1 ≤ k.natAbs := by omega
    have hvalue := value_rounded_units_le hnext
    rw [rounded_blindUnits_succ] at hvalue
    have hsquare' := (mul_self_le_mul_self (Magnitude.value_nonneg _) hvalue).trans hsquare
    rw [value_mul_self] at hsquare'
    have hone := (mul_le_iff_le_one_left hhalf).mp hsquare'
    norm_num at hone
  · intro hsmall
    have hvalue := value_rounded_units_le hsmall
    rw [rounded_blindUnits] at hvalue
    refine (mul_self_le_mul_self (Magnitude.value_nonneg _) hvalue).trans ?_
    rw [value_mul_self]
    refine (mul_le_iff_le_one_left hhalf).mpr ?_
    norm_num

/-! ## 2. Differences of coordinates -/

/-- **A difference has no square if it is small enough.** Squares are not negative. -/
theorem square_of_difference {x y : Float} {v w : ℚ} (hx : StandsFor x v) (hy : StandsFor y w) :
    Nonnegative ((x - y) * (x - y)) ∧
      (((x - y) * (x - y) == 0.0) = true ↔ |v - w| ≤ blind) := by
  obtain ⟨negative, hdifference⟩ := decode_sub hx hy
  obtain ⟨k, hk⟩ := hx.sub_multiple hy
  rw [Real64.packed_finite] at hdifference
  split at hdifference
  · next hlarge =>
    -- the difference is infinite, and far beyond the limit
    have hsquare := decode_mul_self_infinite hdifference
    refine ⟨.inr hsquare, iff_of_false (not_beq_zero_of_infinite hsquare) ?_⟩
    have hone := (canonical_rounded (v - w)).one_le_value hlarge
    have hhalf : (2 : ℚ) ^ (minExponent - 1) < 2 ^ (0 : Int) := zpow_two_lt_iff.mpr (by decide)
    rw [zpow_zero] at hhalf
    rw [hk, ← square_rounded_le_iff, ← hk, not_le]
    exact hhalf.trans_le (one_le_mul_of_one_le_of_one_le hone hone)
  · have hsquare := decode_mul hdifference hdifference
    have hself : Magnitude.signedValue negative (rounded (v - w)) *
        Magnitude.signedValue negative (rounded (v - w)) =
          (rounded (v - w)).value * (rounded (v - w)).value := by
      rw [← abs_mul_abs_self, Magnitude.abs_signedValue]
    rw [bne_self_eq_false, hself] at hsquare
    refine ⟨nonnegative_of_packed hsquare, ?_⟩
    rw [beq_zero_of_rounded hsquare, abs_mul_self, hk, square_rounded_le_iff]

/-! ## 3. Segments -/

variable {a b : Point} {x₁ y₁ x₂ y₂ : ℚ}

/-- **Where a closest point is found.** Of a segment between finite points there is a closest point
    if its ends are the same, or if one of the differences of their coordinates is beyond the limit
    below which squares become zero; otherwise it is divided by zero. -/
theorem closest_found_iff (hax : StandsFor a.x x₁) (hay : StandsFor a.y y₁)
    (hbx : StandsFor b.x x₂) (hby : StandsFor b.y y₂) (p : Point) :
    (∃ q, closest a b p = .ok q) ↔
      (x₂ = x₁ ∧ y₂ = y₁) ∨ blind < |x₂ - x₁| ∨ blind < |y₂ - y₁| := by
  have hdx := sub_beq_zero_iff hbx hax
  have hdy := sub_beq_zero_iff hby hay
  obtain ⟨hx, hsquareX⟩ := square_of_difference hbx hax
  obtain ⟨hy, hsquareY⟩ := square_of_difference hby hay
  have hlength := add_beq_zero_iff_of_nonnegative hx hy
  rw [hsquareX, hsquareY] at hlength
  unfold closest
  dsimp only
  split
  · next hsame =>
    rw [Bool.and_eq_true, hdx, hdy] at hsame
    exact iff_of_true ⟨a, rfl⟩ (.inl hsame)
  · next hsame =>
    rw [Bool.and_eq_true, hdx, hdy] at hsame
    split
    · next hzero =>
      obtain ⟨hsmallX, hsmallY⟩ := hlength.mp hzero
      refine iff_of_false (fun ⟨_, h⟩ => nomatch h) ?_
      rintro (h | h | h)
      · exact hsame h
      · exact absurd hsmallX (not_le.mpr h)
      · exact absurd hsmallY (not_le.mpr h)
    · next hzero =>
      refine iff_of_true ⟨_, rfl⟩ (.inr ?_)
      by_contra hsmall
      obtain ⟨hsmallX, hsmallY⟩ := not_or.mp hsmall
      exact hzero (hlength.mpr ⟨not_lt.mp hsmallX, not_lt.mp hsmallY⟩)

/-- The ends of a segment of length `1e-200` are different, but no closest point is found. -/
theorem closest_found_iff_tiny :
    StandsFor 0.0 0 ∧ StandsFor 1e-200 (6894565328877484 * 2 ^ (-717 : Int)) ∧
      ¬ ∃ q, closest ⟨0.0, 0.0⟩ ⟨1e-200, 0.0⟩ ⟨1.0, 0.0⟩ = .ok q := by
  have hzero : StandsFor 0.0 0 :=
    ⟨false, _, decode_literal_zero, Magnitude.signedValue_zero false⟩
  have htiny : StandsFor 1e-200 (6894565328877484 * 2 ^ (-717 : Int)) :=
    ⟨false, ⟨6894565328877484, -717⟩, by decide +kernel, rfl⟩
  have hsmall : |(6894565328877484 : ℚ) * 2 ^ (-717 : Int)| ≤ blind := by
    unfold blind
    rw [abs_of_pos (by positivity)]
    gcongr
    · norm_num
    · norm_num
    · norm_num
  have hfound := closest_found_iff (a := ⟨0.0, 0.0⟩) (b := ⟨1e-200, 0.0⟩) hzero hzero htiny hzero
    ⟨1.0, 0.0⟩
  refine ⟨hzero, htiny, ?_⟩
  rw [hfound, sub_zero, sub_zero, abs_zero]
  rintro (⟨h, -⟩ | h | h)
  · exact absurd h (by positivity)
  · exact absurd hsmall (not_le.mpr h)
  · exact absurd blind_pos (not_lt.mpr h.le)

end MapQuery.Plane
