import MapQuery.Calendar.Civil
import Mathlib.Order.Monotone.Basic

/-!
# Days and dates

Every day before the end of the year 9999 has a date, and the days before that date are counted
right.

* `daysBeforeYear_succ` -- how long a year is;
* `daysBeforeYear_yearOf` -- the year that a day falls into;
* `monthFrom_spec` -- month and day, by induction on the months that are left;
* `Date.ofDayNumber_spec` -- the date of a day exists, and has so many days before it;
* `Date.Valid.dayNumber_lt` -- no date is beyond the end of the year 9999.
-/

namespace MapQuery.Calendar

/-! ## 1. Years -/

theorem isLeap_iff (y : Nat) : isLeap y = true ↔ y % 4 = 0 ∧ (y % 100 ≠ 0 ∨ y % 400 = 0) := by
  simp [isLeap]

theorem succ_div_eq (k n : Nat) :
    (k + 1) / n = if (k + 1) % n = 0 then k / n + 1 else k / n := by
  rw [Nat.succ_div]
  simp only [Nat.dvd_iff_mod_eq_zero]
  split <;> rfl

/-- **A year is as long as its days.** -/
theorem daysBeforeYear_succ {y : Nat} (hy : 1 ≤ y) :
    daysBeforeYear (y + 1) = daysBeforeYear y + daysInYear y := by
  obtain ⟨k, rfl⟩ : ∃ k, y = k + 1 := ⟨y - 1, by omega⟩
  have h4 := succ_div_eq k 4
  have h100 := succ_div_eq k 100
  have h400 := succ_div_eq k 400
  -- a year that 100 divides is divided by 4, and so on
  have h : (k + 1) % 100 = 0 → (k + 1) % 4 = 0 := by omega
  have h' : (k + 1) % 400 = 0 → (k + 1) % 100 = 0 := by omega
  have hle : k / 100 ≤ k := Nat.div_le_self k 100
  have hleap := isLeap_iff (k + 1)
  unfold daysBeforeYear daysInYear
  rw [Nat.add_sub_cancel, Nat.add_sub_cancel, h4, h100, h400]
  clear h4 h100 h400
  by_cases d4 : (k + 1) % 4 = 0 <;> by_cases d100 : (k + 1) % 100 = 0 <;>
    by_cases d400 : (k + 1) % 400 = 0 <;> simp_all <;> omega

theorem daysBeforeYear_le {y z : Nat} (h : y ≤ z) : daysBeforeYear y ≤ daysBeforeYear z := by
  refine monotone_nat_of_le_succ (fun n => ?_) h
  cases n with
  | zero => exact Nat.le_refl 0
  | succ n =>
    rw [daysBeforeYear_succ (Nat.le_add_left 1 n)]
    exact Nat.le_add_right _ _

/-- Stepping up from a year at or before the day ends in the year of the day, if there are steps
    enough to pass it. -/
theorem yearFrom_spec {n : Nat} (fuel y : Nat) (hlo : daysBeforeYear y ≤ n)
    (hhi : n < daysBeforeYear (y + fuel + 1)) :
    y ≤ yearFrom n fuel y ∧ daysBeforeYear (yearFrom n fuel y) ≤ n ∧
      n < daysBeforeYear (yearFrom n fuel y + 1) := by
  induction fuel generalizing y with
  | zero => exact ⟨Nat.le_refl y, hlo, hhi⟩
  | succ fuel ih =>
    unfold yearFrom
    by_cases h : daysBeforeYear (y + 1) ≤ n
    · rw [if_pos h]
      have hstep : y + 1 + fuel + 1 = y + (fuel + 1) + 1 := by omega
      obtain ⟨hle, hyear⟩ := ih (y + 1) h (hstep ▸ hhi)
      exact ⟨Nat.le_of_succ_le hle, hyear⟩
    · rw [if_neg h]
      exact ⟨Nat.le_refl y, hlo, Nat.not_le.mp h⟩

/-- **The year that a day falls into.** -/
theorem daysBeforeYear_yearOf (n : Nat) :
    1 ≤ yearOf n ∧ daysBeforeYear (yearOf n) ≤ n ∧ n < daysBeforeYear (yearOf n + 1) := by
  have hlo : daysBeforeYear (n / 366 + 1) ≤ n := by
    unfold daysBeforeYear
    omega
  have hhi : n < daysBeforeYear (n / 366 + 1 + (n / 1000 + 1) + 1) := by
    unfold daysBeforeYear
    omega
  obtain ⟨hle, hyear⟩ := yearFrom_spec _ _ hlo hhi
  exact ⟨Nat.le_trans (Nat.le_add_left 1 _) hle, hyear⟩

/-! ## 2. Months -/

theorem daysBeforeMonth_succ (y : Nat) {m : Nat} (hm : 1 ≤ m) :
    daysBeforeMonth y (m + 1) = daysBeforeMonth y m + daysInMonth y m := by
  obtain ⟨k, rfl⟩ : ∃ k, m = k + 1 := ⟨m - 1, by omega⟩
  rfl

theorem daysBeforeMonth_le (y : Nat) {m k : Nat} (h : m ≤ k) :
    daysBeforeMonth y m ≤ daysBeforeMonth y k := by
  refine monotone_nat_of_le_succ (fun n => ?_) h
  cases n with
  | zero => exact Nat.le_refl 0
  | succ n => exact Nat.le_add_right _ _

/-- **Month and day**, by induction on the months that are left: what was passed and what is left
    stay the same together. -/
theorem monthFrom_spec {y n : Nat} (fuel m r : Nat) (hm : 1 ≤ m) (hlast : m + fuel = 12)
    (hr : daysBeforeMonth y m + r = n) (hn : n < daysInYear y) :
    let p := monthFrom y fuel m r
    1 ≤ p.1 ∧ p.1 ≤ 12 ∧ 1 ≤ p.2 ∧ p.2 ≤ daysInMonth y p.1 ∧
      daysBeforeMonth y p.1 + (p.2 - 1) = n := by
  induction fuel generalizing m r with
  | zero =>
    obtain rfl : m = 12 := hlast
    have hyear := daysBeforeMonth_thirteen y
    rw [daysBeforeMonth_succ y (by decide)] at hyear
    show 1 ≤ 12 ∧ 12 ≤ 12 ∧ 1 ≤ r + 1 ∧ r + 1 ≤ daysInMonth y 12 ∧ daysBeforeMonth y 12 + r = n
    omega
  | succ fuel ih =>
    unfold monthFrom
    by_cases h : r < daysInMonth y m
    · rw [if_pos h]
      show 1 ≤ m ∧ m ≤ 12 ∧ 1 ≤ r + 1 ∧ r + 1 ≤ daysInMonth y m ∧ daysBeforeMonth y m + r = n
      omega
    · rw [if_neg h]
      refine ih (m + 1) (r - daysInMonth y m) (by omega) (by omega) ?_
      rw [daysBeforeMonth_succ y hm]
      omega

/-! ## 3. Dates -/

/-- **The date of a day exists, and has so many days before it.** -/
theorem Date.ofDayNumber_spec {n : Nat} (hn : n < dayLimit) :
    (Date.ofDayNumber n).Valid ∧ (Date.ofDayNumber n).dayNumber = n := by
  obtain ⟨hyear, hlo, hhi⟩ := daysBeforeYear_yearOf n
  have hlast : yearOf n ≤ 9999 := Nat.le_of_not_lt fun hbig =>
    Nat.not_le.mpr hn (Nat.le_trans (daysBeforeYear_le hbig) hlo)
  rw [daysBeforeYear_succ hyear] at hhi
  have hmonth := monthFrom_spec (y := yearOf n) 11 1 (n - daysBeforeYear (yearOf n))
    (Nat.le_refl 1) rfl (Nat.zero_add _) (by omega)
  obtain ⟨hm, hm', hd, hd', hsum⟩ := hmonth
  refine ⟨⟨hyear, hlast, hm, hm', hd, hd'⟩, ?_⟩
  unfold Date.dayNumber
  rw [Nat.add_assoc]
  exact (congrArg (daysBeforeYear (yearOf n) + ·) hsum).trans (Nat.add_sub_cancel' hlo)

/-- **No date is beyond the end of the year 9999.** -/
theorem Date.Valid.dayNumber_lt {d : Date} (hd : d.Valid) : d.dayNumber < dayLimit := by
  obtain ⟨hy, hy', hm, hm', hd, hd'⟩ := hd
  have hyear : daysBeforeYear (d.year + 1) ≤ dayLimit := daysBeforeYear_le (by omega)
  have hmonth : daysBeforeMonth d.year (d.month + 1) ≤ daysBeforeMonth d.year 13 :=
    daysBeforeMonth_le d.year (by omega)
  rw [daysBeforeYear_succ hy] at hyear
  rw [daysBeforeMonth_thirteen, daysBeforeMonth_succ d.year hm] at hmonth
  unfold Date.dayNumber
  omega

end MapQuery.Calendar
