/-!
# Rounding a quotient

The quotient of two natural numbers rounded to the nearest integer, a tie to the even neighbour.
Every number that is printed with few digits, or read into binary, goes through this one function.
-/

namespace MapQuery.Number

/-- The integer nearest to `num / den`; of two equally near ones, the even one. -/
def roundDiv (num den : Nat) : Nat :=
  let q := num / den
  let r := 2 * (num % den)
  if r < den then q
  else if den < r then q + 1
  else q + q % 2

/-- **The rounded quotient is within half a unit of the quotient.** -/
theorem roundDiv_near (num den : Nat) (h : 0 < den) :
    2 * num ≤ 2 * roundDiv num den * den + den ∧ 2 * roundDiv num den * den ≤ 2 * num + den := by
  have hdm : num = den * (num / den) + num % den := (Nat.div_add_mod num den).symm
  have hlt : num % den < den := Nat.mod_lt _ h
  have e (q : Nat) : 2 * q * den = 2 * (den * q) := by rw [Nat.mul_assoc, Nat.mul_comm q den]
  have e' (q : Nat) : den * (q + 1) = den * q + den := by rw [Nat.mul_add, Nat.mul_one]
  unfold roundDiv
  simp only
  split
  · rw [e]; omega
  · split
    · rw [e, e']; omega
    · have h2 : num / den % 2 = 0 ∨ num / den % 2 = 1 := by omega
      rcases h2 with h2 | h2
      · rw [h2, Nat.add_zero, e]; omega
      · rw [h2, e, e']; omega

/-- A tie goes to the even neighbour. -/
theorem roundDiv_tie (q den : Nat) (h : 0 < den) :
    roundDiv (2 * q * den + den) (2 * den) = q + q % 2 := by
  have hd : (2 * q * den + den) / (2 * den) = q := by
    have : 2 * q * den + den = den + 2 * den * q := by
      rw [Nat.add_comm, Nat.mul_assoc, Nat.mul_assoc, Nat.mul_comm q den]
    rw [this, Nat.add_mul_div_left _ _ (by omega), Nat.div_eq_of_lt (by omega), Nat.zero_add]
  have hm : (2 * q * den + den) % (2 * den) = den := by
    have : 2 * q * den + den = den + 2 * den * q := by
      rw [Nat.add_comm, Nat.mul_assoc, Nat.mul_assoc, Nat.mul_comm q den]
    rw [this, Nat.add_mul_mod_self_left, Nat.mod_eq_of_lt (by omega)]
  simp [roundDiv, hd, hm]

end MapQuery.Number
