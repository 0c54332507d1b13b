/-!
# Similar texts

How alike two texts are, and which of several are close to a given one. Two texts share their
longest common block, and what the parts before it and behind it share; twice the number of shared
characters over the number of all is how alike they are.
-/

namespace MapQuery.Text

/-- The number of characters that two texts have in common at their start. -/
def commonStart : List Char → List Char → Nat
  | a :: s, b :: t => if a = b then commonStart s t + 1 else 0
  | _, _ => 0

/-- A block that two texts share: where it starts in each, and how long it is. -/
structure Block where
  left : Nat
  right : Nat
  size : Nat
  deriving DecidableEq, Repr

/-- The longer of two blocks, the first if none is. -/
def Block.longer (a b : Block) : Block := if a.size < b.size then b else a

/-- All pairs of places in two texts, by the place in the first one. -/
def placePairs (s t : List Char) : List (Nat × Nat) :=
  (List.range s.length).flatMap fun i => (List.range t.length).map fun j => (i, j)

/-- The longest block that two texts share, the first of several. -/
def longestBlock (s t : List Char) : Block :=
  (placePairs s t).foldl
    (fun best (i, j) => best.longer ⟨i, j, commonStart (s.drop i) (t.drop j)⟩) ⟨0, 0, 0⟩

/-- The number of characters that two texts share; the first argument bounds the depth. -/
def shared : Nat → List Char → List Char → Nat
  | 0, _, _ => 0
  | n + 1, s, t =>
    let b := longestBlock s t
    if b.size = 0 then 0
    else
      shared n (s.take b.left) (t.take b.right) + b.size +
        shared n (s.drop (b.left + b.size)) (t.drop (b.right + b.size))

/-- How alike two texts are, as a quotient. -/
def likeness (s t : List Char) : Nat × Nat :=
  (2 * shared s.length s t, s.length + t.length)

/-- Is one quotient below another? -/
def quotientLt (a b : Nat × Nat) : Bool := decide (a.1 * b.2 < b.1 * a.2)

/-- Does the first of two candidates with their likeness come first? The more alike does, and the
    later in the order of texts of two that are equally alike. -/
def comesFirst (a b : (Nat × Nat) × String) : Bool :=
  quotientLt b.1 a.1 || (!quotientLt a.1 b.1 && decide (b.2 ≤ a.2))

/-- At most three of the candidates that are close to a text, the closest first. Close are those
    that share at least three fifths. -/
def closeMatches (word : String) (candidates : List String) : List String :=
  let rated := candidates.map fun c => (likeness c.toList word.toList, c)
  let close := rated.filter fun r => !quotientLt r.1 (3, 5)
  ((close.mergeSort comesFirst).take 3).map Prod.snd

end MapQuery.Text
