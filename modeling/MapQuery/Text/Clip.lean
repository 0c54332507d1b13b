import MapQuery.Text.Rough

/-!
# Clipping

A text cut to a number of codes, with an ellipsis in the last place to show the cut.
-/

namespace MapQuery.Text

/-- The first `n` codes; a negative `n` counts from the end. -/
def takeFirst (n : Int) (s : List CodePoint) : List CodePoint :=
  match n with
  | .ofNat k => s.take k
  | .negSucc k => s.take (s.length - (k + 1))

/-- At most `width` codes of a text. There is no room for an ellipsis below two. -/
def clipPoints (width : Int) (s : List CodePoint) : List CodePoint :=
  if (s.length : Int) ≤ width then s
  else if width ≤ 1 then takeFirst width s
  else takeFirst (width - 1) s ++ [.char '…']

/-- A text cut to a width, if there is one. -/
def clip (width : Option Int) (s : Rough) : Rough :=
  match width with
  | none => s
  | some w => .ofPoints (clipPoints w s.points)

end MapQuery.Text
