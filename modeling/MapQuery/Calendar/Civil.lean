/-!
# Civil dates

Days counted from the first day of the year 1 in the Gregorian calendar carried back before its
introduction, and the civil dates they stand for.

* `daysBeforeYear`, `daysBeforeMonth` -- how many days precede a year, and a month of a year;
* `Date.dayNumber` -- the days before a date;
* `Date.ofDayNumber` -- the date of a day: the year by stepping up from a lower bound, the month by
  walking through the months.
-/

namespace MapQuery.Calendar

/-! ## 1. Years and months -/

/-- Every fourth year is a leap year, but of the centuries only every fourth. -/
def isLeap (y : Nat) : Bool :=
  y % 4 == 0 && (y % 100 != 0 || y % 400 == 0)

/-- The number of days in a month. -/
def daysInMonth (y m : Nat) : Nat :=
  match m with
  | 2 => if isLeap y then 29 else 28
  | 4 | 6 | 9 | 11 => 30
  | _ => 31

/-- The number of days in a year. -/
def daysInYear (y : Nat) : Nat :=
  if isLeap y then 366 else 365

/-- The number of days from the start of the year 1 to the start of year `y`. -/
def daysBeforeYear (y : Nat) : Nat :=
  (y - 1) * 365 + (y - 1) / 4 - (y - 1) / 100 + (y - 1) / 400

/-- The number of days in a year before its month `m`. -/
def daysBeforeMonth (y : Nat) : Nat → Nat
  | 0 => 0
  | 1 => 0
  | m + 1 => daysBeforeMonth y m + daysInMonth y m

/-! ## 2. Dates -/

/-- A date of the Gregorian calendar. -/
structure Date where
  year : Nat
  month : Nat
  day : Nat
  deriving DecidableEq, Repr

/-- A day that exists, in the years 1 to 9999. -/
def Date.Valid (d : Date) : Prop :=
  1 ≤ d.year ∧ d.year ≤ 9999 ∧ 1 ≤ d.month ∧ d.month ≤ 12 ∧ 1 ≤ d.day ∧
    d.day ≤ daysInMonth d.year d.month

instance (d : Date) : Decidable d.Valid := by
  unfold Date.Valid
  infer_instance

/-- The number of days before a date, from the start of the year 1. -/
def Date.dayNumber (d : Date) : Nat :=
  daysBeforeYear d.year + daysBeforeMonth d.year d.month + (d.day - 1)

/-- The last year from `y` on that starts at or before day `n`, at most `fuel` years later. -/
def yearFrom (n : Nat) : Nat → Nat → Nat
  | 0, y => y
  | fuel + 1, y => if daysBeforeYear (y + 1) ≤ n then yearFrom n fuel (y + 1) else y

/-- The year that day `n` falls into. No year has more than 366 days, so `n / 366 + 1` is at most
    this year, and `n / 1000 + 1` steps are enough to reach it. -/
def yearOf (n : Nat) : Nat :=
  yearFrom n (n / 1000 + 1) (n / 366 + 1)

/-- Month and day of the day with `n` days before it in the months from `m` on. -/
def monthFrom (y : Nat) : Nat → Nat → Nat → Nat × Nat
  | 0, m, n => (m, n + 1)
  | fuel + 1, m, n =>
    if n < daysInMonth y m then (m, n + 1) else monthFrom y fuel (m + 1) (n - daysInMonth y m)

/-- The date with `n` days before it. -/
def Date.ofDayNumber (n : Nat) : Date :=
  let y := yearOf n
  let (m, d) := monthFrom y 11 1 (n - daysBeforeYear y)
  ⟨y, m, d⟩

/-- The number of days from the start of the year 1 to the end of the year 9999. -/
def dayLimit : Nat := daysBeforeYear 10000

/-! ## 3. Weeks -/

/-- The day of the week, Monday being 0. The first day of the year 1 was a Monday. -/
def weekday (n : Nat) : Nat := n % 7

/-- The day before which week 1 of a year starts: the Monday of the week that holds 4 January. -/
def firstMonday (y : Nat) : Int :=
  let newYear : Int := daysBeforeYear y
  let w : Int := weekday (daysBeforeYear y)
  if w ≤ 3 then newYear - w else newYear - w + 7

/-- Does a year have 53 weeks? It does if it starts on a Thursday, or on a Wednesday and is a leap
    year. -/
def hasWeek53 (y : Nat) : Bool :=
  let w := weekday (daysBeforeYear y)
  w == 3 || (w == 2 && isLeap y)

/-! ## 4. Small facts -/

/-- The months of a year fill it. -/
theorem daysBeforeMonth_thirteen (y : Nat) : daysBeforeMonth y 13 = daysInYear y := by
  simp only [daysBeforeMonth, daysInMonth, daysInYear]
  split <;> rfl

end MapQuery.Calendar
