import MapQuery.Text.Case.Fold
import MapQuery.Text.Normal.Form

/-!
# Comparing texts

Every predicate that compares texts does it through this module, so composed and decomposed
spellings, and letter case, are treated alike by all of them.

* `normalize` -- the composed normal form;
* `fold` -- the form compared: case folded first unless case counts, then normalized;
* `contains` -- does the folded form of a text hold a needle that was folded before.
-/

namespace MapQuery.Text

/-- The composed normal form of a text. -/
def normalize (s : String) : String :=
  String.ofList (Normal.composed s.toList)

/-- The form in which a text is compared. -/
def fold (s : String) (caseSensitive : Bool) : String :=
  if caseSensitive then normalize s
  else String.ofList (Normal.composed (Case.foldText s.toList))

/-- Does `needle` stand somewhere in `s`? -/
def isInfixOf (needle : List Char) : List Char → Bool
  | [] => needle.isEmpty
  | c :: s => needle.isPrefixOf (c :: s) || isInfixOf needle s

/-- Does the folded form of `haystack` hold `needle`, which is compared as it stands? -/
def contains (haystack needle : String) (caseSensitive : Bool) : Bool :=
  isInfixOf needle.toList (fold haystack caseSensitive).toList

/-- **A needle is found exactly when something stands before it and something after it.** -/
theorem isInfixOf_iff (needle : List Char) : ∀ s : List Char,
    isInfixOf needle s = true ↔ ∃ a b, s = a ++ needle ++ b
  | [] => by
    simp only [isInfixOf, List.isEmpty_iff]
    constructor
    · rintro rfl
      exact ⟨[], [], rfl⟩
    · rintro ⟨a, b, h⟩
      have h' : a ++ (needle ++ b) = [] := by rw [← List.append_assoc]; exact h.symm
      exact (List.append_eq_nil_iff.mp (List.append_eq_nil_iff.mp h').2).1
  | c :: s => by
    simp only [isInfixOf, Bool.or_eq_true, List.isPrefixOf_iff_prefix, isInfixOf_iff needle s]
    constructor
    · rintro (⟨b, h⟩ | ⟨a, b, rfl⟩)
      · exact ⟨[], b, h.symm⟩
      · exact ⟨c :: a, b, rfl⟩
    · rintro ⟨a, b, h⟩
      cases a with
      | nil => exact Or.inl ⟨b, h.symm⟩
      | cons d a =>
        simp only [List.cons_append, List.cons.injEq] at h
        exact Or.inr ⟨a, b, h.2⟩

end MapQuery.Text
