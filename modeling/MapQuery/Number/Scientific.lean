import MapQuery.Number.Shortest

/-!
# A fixed number of significant digits

Doubles in scientific notation with a given number of digits after the point, rounded from the
exact binary value, ties to even.
-/

namespace MapQuery.Number

/-- Digits and exponent of a positive quotient rounded to `places + 1` significant digits. -/
def significant (places : Nat) (n d : Nat) (lead : Int) : Nat × Int :=
  let m := match lead - places with
    | .ofNat k => roundDiv n (d * Nat.pow 10 k)
    | .negSucc k => roundDiv (n * Nat.pow 10 (k + 1)) d
  if m = Nat.pow 10 (places + 1) then (Nat.pow 10 places, lead + 1) else (m, lead)

/-- The text of a double in scientific notation, as in `-1.23392e+04`. -/
def scientificText (places : Nat) (x : Float) : String :=
  match decode x with
  | .nan => "nan"
  | .infinite negative => if negative then "-inf" else "inf"
  | .finite negative size =>
    let (digits, exponent) :=
      if size.m = 0 then (0, 0)
      else
        let (n, d) := size.toQuotient
        significant places n d ((Interval.of size).leading 660 330)
    let body := match Text.natPadded (places + 1) digits with
      | [] => []
      | c :: r => c :: ((if r.isEmpty then r else '.' :: r) ++ exponentText realFormat exponent)
    String.ofList (if negative then '-' :: body else body)

end MapQuery.Number
