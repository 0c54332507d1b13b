import MapQuery.Number.Binary64

/-!
# The integers that are too large for a double

An integer has no double if the nearest number with 53 binary digits is `2 ^ 1024` or more. The
largest double is `2 ^ 1024 - 2 ^ 971`, so half of `2 ^ 971` above it is the first such integer: the
tie there goes up.

* `roundDiv_eq_even_iff` -- when a quotient is rounded up to an even number above it;
* `lt_exponent_iff` -- how large an integer is, by the exponent of the double nearest to it;
* `ofInteger_eq_none_iff` -- the integers without a double.
-/

namespace MapQuery.Number

/-- **A quotient below an even number is rounded to it from half a unit below on**, the tie
    included. -/
theorem roundDiv_eq_even_iff {num half k : Nat} (hhalf : 0 < half)
    (hlt : num < 2 * half * (2 * k)) :
    roundDiv num (2 * half) = 2 * k ↔ 2 * half * (2 * k) ≤ num + half := by
  have hdm : 2 * half * (num / (2 * half)) + num % (2 * half) = num :=
    Nat.div_add_mod num (2 * half)
  have hr : num % (2 * half) < 2 * half := Nat.mod_lt _ (by omega)
  have hq : num / (2 * half) < 2 * k := Nat.div_lt_of_lt_mul hlt
  unfold roundDiv
  simp only
  generalize num / (2 * half) = q at hdm hq
  generalize num % (2 * half) = r at hdm hr
  by_cases hnext : q + 1 = 2 * k
  · have hk : 2 * half * (2 * k) = 2 * half * q + 2 * half := by rw [← hnext, Nat.mul_succ]
    split
    · omega
    · split <;> omega
  · -- two units below the number nothing is rounded up to it
    have hk : 2 * half * (q + 2) ≤ 2 * half * (2 * k) := Nat.mul_le_mul_left _ (by omega)
    rw [Nat.mul_add] at hk
    split
    · omega
    · split <;> omega

/-- The binary digits of an integer are counted by its logarithm. -/
theorem floorLog2_one {num : Nat} (h : num ≠ 0) : floorLog2 num 1 = num.log2 := by
  have hlog : (1 : Nat).log2 = 0 := by decide
  have hle : Nat.pow 2 num.log2 ≤ num := Nat.log2_self_le h
  have hpow : ¬ num < 1 * Nat.pow 2 num.log2 := by omega
  unfold floorLog2
  simp only [hlog, Int.natCast_zero, Int.sub_zero]
  show (if num < 1 * Nat.pow 2 num.log2 then (num.log2 : Int) - 1 else num.log2) = num.log2
  exact if_neg hpow

/-- The double nearest to an integer, before its size is known. -/
theorem nearest_one {num : Nat} (h : num ≠ 0) :
    nearest num 1 =
      let e : Int := num.log2 - 52
      let m := roundDiv (scaled num 1 e).1 (scaled num 1 e).2
      if m = Nat.pow 2 53 then ⟨Nat.pow 2 52, e + 1⟩ else ⟨m, e⟩ := by
  have hmax : max minExponent ((num.log2 : Int) - 52) = num.log2 - 52 := by
    unfold minExponent
    omega
  unfold nearest
  rw [if_neg (by simpa using h), floorLog2_one h, hmax]

/-- The exponent is that of the integer's digits, unless it is rounded up to a power of two. -/
theorem exponent_nearest {num : Nat} (h : num ≠ 0) :
    (nearest num 1).e = num.log2 - 52 ∨ (nearest num 1).e = num.log2 - 51 := by
  rw [nearest_one h]
  dsimp only
  split
  · right
    show (num.log2 : Int) - 52 + 1 = _
    omega
  · exact .inl rfl

theorem exponent_nearest_of_log2 {num k : Nat} (h : num ≠ 0) (hk : num.log2 = k + 52) :
    (roundDiv num (Nat.pow 2 k) = Nat.pow 2 53 → (nearest num 1).e = k + 1) ∧
      (roundDiv num (Nat.pow 2 k) ≠ Nat.pow 2 53 → (nearest num 1).e = k) := by
  have he : (num.log2 : Int) - 52 = k := by omega
  have hscaled : scaled num 1 (k : Int) = (num, Nat.pow 2 k) := by
    show (num, 1 * Nat.pow 2 k) = (num, Nat.pow 2 k)
    rw [Nat.one_mul]
  rw [nearest_one h]
  dsimp only
  rw [he, hscaled]
  exact ⟨fun hm => by rw [if_pos hm], fun hm => by rw [if_neg hm]⟩

/-- **How large an integer is, by the exponent of the double nearest to it**, as if there were no
    greatest exponent. -/
theorem lt_exponent_iff (num k : Nat) :
    (k : Int) + 1 < (nearest num 1).e ↔ Nat.pow 2 (k + 54) ≤ num + Nat.pow 2 k := by
  have hhalf : 0 < Nat.pow 2 k := Nat.two_pow_pos k
  have hone : Nat.pow 2 (k + 1) = Nat.pow 2 k * 2 := Nat.pow_succ 2 k
  have h53 : Nat.pow 2 (k + 53) = Nat.pow 2 k * Nat.pow 2 53 := Nat.pow_add 2 k 53
  have h54 : Nat.pow 2 (k + 54) = Nat.pow 2 k * Nat.pow 2 54 := Nat.pow_add 2 k 54
  have hpow53 : Nat.pow 2 53 = 9007199254740992 := by decide
  have hpow54 : Nat.pow 2 54 = 18014398509481984 := by decide
  rw [hpow53] at h53
  rw [hpow54] at h54
  by_cases hzero : num = 0
  · have he : (nearest num 1).e = minExponent := by
      unfold nearest
      rw [if_pos (.inl hzero)]
    rw [he, hzero]
    unfold minExponent
    omega
  · have hlow : Nat.pow 2 num.log2 ≤ num := Nat.log2_self_le hzero
    have hhigh : num < Nat.pow 2 (num.log2 + 1) := Nat.lt_log2_self
    have hexponent := exponent_nearest hzero
    rcases Nat.lt_trichotomy num.log2 (k + 53) with hlog | hlog | hlog
    · have hle : Nat.pow 2 (num.log2 + 1) ≤ Nat.pow 2 (k + 53) :=
        Nat.pow_le_pow_right (by decide) hlog
      omega
    · -- the digits are those of the largest number below, and rounding up adds one to them
      obtain ⟨hup, hstay⟩ := exponent_nearest_of_log2 (k := k + 1) hzero (by omega)
      rw [hlog] at hhigh
      have htop : 2 * Nat.pow 2 k * (2 * 4503599627370496) = Nat.pow 2 (k + 54) := by omega
      have hround : roundDiv num (2 * Nat.pow 2 k) = 2 * 4503599627370496 ↔ _ :=
        roundDiv_eq_even_iff hhalf (by rw [htop]; exact hhigh)
      rw [htop, Nat.mul_comm 2, ← hone] at hround
      rw [hpow53] at hup hstay
      rw [← hround]
      by_cases hm : roundDiv num (Nat.pow 2 (k + 1)) = 9007199254740992
      · have he := hup hm
        exact ⟨fun _ => hm, fun _ => by omega⟩
      · have he := hstay hm
        exact ⟨fun h => absurd h (by omega), fun h => absurd h hm⟩
    · have hge : Nat.pow 2 (k + 54) ≤ Nat.pow 2 num.log2 := Nat.pow_le_pow_right (by decide) hlog
      omega

/-- **The integers without a double.** -/
theorem ofInteger_eq_none_iff (n : Int) :
    ofInteger n = none ↔ Nat.pow 2 1024 ≤ n.natAbs + Nat.pow 2 970 := by
  refine Iff.trans ?_ (lt_exponent_iff n.natAbs 970)
  unfold ofInteger maxExponent
  dsimp only
  split
  · next h => exact ⟨fun _ => h, fun _ => rfl⟩
  · next h => exact ⟨nofun, fun h' => absurd h' h⟩

end MapQuery.Number
