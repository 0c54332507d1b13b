import MapQuery.Calendar.Moment
import MapQuery.Proofs.Number.Nearest

/-!
# Seconds since 1970

An instant is counted in seconds by way of a double, which is then cut toward zero: down from 1970
on, and up before. Neither step changes the order of two instants, and none of them changes a number
of whole seconds, since on the whole calendar these are integers that a double holds.

* `withSign_floor_le` -- quotients of either sign, rounded and cut toward zero, stay in order;
* `Moment.Proper` -- the moments that a clock and a calendar can show;
* `Moment.epochSeconds_le` -- of two instants the later one has no fewer seconds;
* `Moment.epochSeconds_sub` -- the seconds from one instant to another.
-/

namespace MapQuery

/-- **Quotients stay in order when they are rounded and cut toward zero**, whatever their signs. -/
theorem Number.withSign_floor_le {x y : Int} (h : x ≤ y) (den : Nat) :
    withSign (decide (x < 0)) (nearest x.natAbs den).floor ≤
      withSign (decide (y < 0)) (nearest y.natAbs den).floor := by
  unfold withSign
  by_cases hx : x < 0
  · by_cases hy : y < 0
    · -- the sizes of negative numbers come in the other order
      have hfloor := floor_nearest_le (show y.natAbs ≤ x.natAbs by omega) den
      simp only [hx, hy, decide_true, if_true]
      omega
    · simp only [hx, hy, decide_true, decide_false, if_true, Bool.false_eq_true, if_false]
      omega
  · have hy : ¬ y < 0 := by omega
    have hfloor := floor_nearest_le (show x.natAbs ≤ y.natAbs by omega) den
    simp only [hx, hy, decide_false, Bool.false_eq_true, if_false]
    omega

/-- **An integer with a few digits is neither rounded nor cut.** -/
theorem Number.withSign_floor_mul {n : Int} {den : Nat} (hn : n.natAbs < 2 ^ 53)
    (hden : 0 < den) :
    withSign (decide (n * den < 0)) (nearest (n * den).natAbs den).floor = n := by
  have hsign : n * den < 0 ↔ n < 0 := by
    constructor
    · intro h
      by_contra hnot
      have hnonneg : 0 ≤ n * den := Int.mul_nonneg (by omega) (by omega)
      omega
    · intro h
      exact Int.mul_neg_of_neg_of_pos h (by omega)
  rw [Int.natAbs_mul, Int.natAbs_natCast, floor_nearest_mul hn hden]
  unfold withSign
  by_cases h : n < 0
  · rw [if_pos (decide_eq_true (hsign.mpr h))]
    omega
  · rw [decide_eq_false (mt hsign.mp h), if_neg Bool.false_ne_true]
    omega

namespace Calendar.Moment

variable {a b t : Moment}

/-- **The moments that a clock and a calendar can show**: in the years 1 to 9999, with an offset of
    less than a day. -/
structure Proper (t : Moment) : Prop where
  clock : t.clock < microLimit
  offset : (t.offset.getD 0).natAbs < microsPerDay

/-- **Of two instants the later one does not have fewer seconds.** -/
theorem epochSeconds_le (h : a.instant ≤ b.instant) : a.epochSeconds ≤ b.epochSeconds :=
  Number.withSign_floor_le (Int.sub_le_sub_right h _) _

/-- **One instant has one number of seconds**, whatever the offset is with which it is shown. -/
theorem epochSeconds_congr (h : a.instant = b.instant) : a.epochSeconds = b.epochSeconds := by
  unfold epochSeconds epochMicroseconds
  rw [h]

/-- The seconds of an instant without a fraction are exact. -/
theorem epochSeconds_mul (ht : t.Proper) (hwhole : t.instant % microsPerSecond = 0) :
    t.epochSeconds * microsPerSecond = t.epochMicroseconds := by
  have hdays : (epochMicros : Int) = 62135596800 * microsPerSecond := by decide
  obtain ⟨n, hn⟩ := Int.dvd_of_emod_eq_zero hwhole
  have hmicros : t.epochMicroseconds = (n - 62135596800) * microsPerSecond := by
    unfold epochMicroseconds
    rw [hdays, hn, Int.sub_mul, Int.mul_comm n]
  -- there are 3652059 days in the years 1 to 9999
  have hsize : (n - 62135596800).natAbs < 2 ^ 53 := by
    have hclock : t.clock < 315537897600000000 := ht.clock
    have hoffset : (t.offset.getD 0).natAbs < 86400000000 := ht.offset
    have hinstant : (t.clock : Int) - t.offset.getD 0 = 1000000 * n := hn
    omega
  have hexact := Number.withSign_floor_mul hsize (show 0 < microsPerSecond by decide)
  unfold epochSeconds
  dsimp only
  rw [hmicros, hexact]

/-- **The seconds from one instant to another**, where neither of them has a fraction. -/
theorem epochSeconds_sub (ha : a.Proper) (hb : b.Proper)
    (hwholeA : a.instant % microsPerSecond = 0) (hwholeB : b.instant % microsPerSecond = 0) :
    (b.epochSeconds - a.epochSeconds) * microsPerSecond = b.instant - a.instant := by
  rw [Int.sub_mul, epochSeconds_mul ha hwholeA, epochSeconds_mul hb hwholeB]
  unfold epochMicroseconds
  omega

end Calendar.Moment

end MapQuery
