import MapQuery.Proofs.Command.Reordered

/-!
# What a search explains

A search that is asked to explain prints the text of the predicate that it then looks for. The text
is made by a loop: it collects the links of a chain, and wraps them around its end from the inside
out. Here the same text is given by recursion on the predicate alone, so each pair of parentheses
stands for one conjunction or disjunction of what is evaluated.

* `Predicate.grouped` -- the text of a predicate by recursion on it;
* `unwound_spine` -- what the loop has collected, and what is left, make the text that is due;
* `display_join` -- the text of joined predicates by those of their operands;
* `display_eq_grouped` -- the loop is the recursion;
* `explains_grouping` -- every way to nest predicates, and the search that explains one.
-/

namespace MapQuery

namespace Predicate

/-! ## 1. Recursion on the predicate -/

/-- The text of a predicate, by recursion on it. -/
def grouped : Predicate → String
  | .not p => "!" ++ p.grouped
  | .both l r => "(" ++ l.grouped ++ " && " ++ r.grouped ++ ")"
  | .either l r => "(" ++ l.grouped ++ " || " ++ r.grouped ++ ")"
  | .hasChild p => "child(" ++ p.grouped ++ ")"
  | .hasParent p => "parent(" ++ p.grouped ++ ")"
  | leaf => leaf.display

/-! ## 2. The loop -/

theorem wrapped_and (left rest : String) :
    wrapped left .and rest = "(" ++ left ++ " && " ++ rest ++ ")" := by
  unfold wrapped Joint.sign
  simp only [String.append_assoc]
  rfl

theorem wrapped_or (left rest : String) :
    wrapped left .or rest = "(" ++ left ++ " || " ++ rest ++ ")" := by
  unfold wrapped Joint.sign
  simp only [String.append_assoc]
  rfl

/-- A link wrapped around the text of what follows it. -/
def wrapLink (rest : String) (x : Predicate × Joint) : String := wrapped x.1.display x.2 rest

/-- The links of a chain, the last one first, wrapped around the text of its end. -/
def unwound (heads : List (Predicate × Joint)) (last : String) : String :=
  heads.foldl wrapLink last

/-- The text of joined predicates, without the bounds that make the recursion end. -/
theorem display_join_eq_unwound (j : Joint) (l r : Predicate) : (j.join l r).display =
    unwound (r.spine [(l, j)]).1 (r.spine [(l, j)]).2.display := by
  cases j with
  | and =>
    unfold Joint.join
    rw [display]
    exact List.foldl_attach (f := wrapLink)
  | or =>
    unfold Joint.join
    rw [display]
    exact List.foldl_attach (f := wrapLink)

/-- **What the loop has collected, and what is left, make the text that is due.** -/
theorem unwound_spine (p : Predicate) (heads : List (Predicate × Joint)) :
    unwound (p.spine heads).1 (p.spine heads).2.display = unwound heads p.display := by
  -- each turn of the loop moves one left operand; the text of what it leaves is that of a chain
  induction p generalizing heads with
  | both l r _ ih =>
    show _ = unwound heads (Joint.and.join l r).display
    rw [display_join_eq_unwound, ih [(l, .and)]]
    exact ih ((l, .and) :: heads)
  | either l r _ ih =>
    show _ = unwound heads (Joint.or.join l r).display
    rw [display_join_eq_unwound, ih [(l, .or)]]
    exact ih ((l, .or) :: heads)
  | _ => rfl

/-- Joined predicates by their operands. -/
theorem display_join (j : Joint) (l r : Predicate) :
    (j.join l r).display = wrapped l.display j r.display := by
  rw [display_join_eq_unwound, unwound_spine]
  rfl

theorem display_both (l r : Predicate) :
    (both l r).display = "(" ++ l.display ++ " && " ++ r.display ++ ")" := by
  rw [← wrapped_and, ← display_join]
  rfl

theorem display_either (l r : Predicate) :
    (either l r).display = "(" ++ l.display ++ " || " ++ r.display ++ ")" := by
  rw [← wrapped_or, ← display_join]
  rfl

theorem display_not (p : Predicate) : (not p).display = "!" ++ p.display := by
  rw [display]

theorem display_hasChild (p : Predicate) :
    (hasChild p).display = "child(" ++ p.display ++ ")" := by
  rw [display]

theorem display_hasParent (p : Predicate) :
    (hasParent p).display = "parent(" ++ p.display ++ ")" := by
  rw [display]

/-- **The loop along chains is the recursion on predicates**, in mixed chains, and below left
    operands, negations, children and parents. -/
theorem display_eq_grouped (p : Predicate) : p.display = p.grouped := by
  induction p with
  | not p ih => rw [display_not, grouped, ih]
  | both l r ihl ihr => rw [display_both, grouped, ihl, ihr]
  | either l r ihl ihr => rw [display_either, grouped, ihl, ihr]
  | hasChild p ih => rw [display_hasChild, grouped, ih]
  | hasParent p ih => rw [display_hasParent, grouped, ih]
  | _ => rfl

end Predicate

/-! ## 3. Explaining -/

namespace Command.Search

/-- **A text has the grouping of its predicate.** Operands stand in parentheses with the sign of
    their joint between them, whichever side they are nested to; negations, children and parents are
    put around the text of their operand. What a search explains, before it looks for the objects
    that a predicate holds of, is the text of that predicate, put together by recursion on it. -/
theorem explains_grouping :
    (∀ l r, (Predicate.both l r).display = "(" ++ l.display ++ " && " ++ r.display ++ ")") ∧
    (∀ l r, (Predicate.either l r).display = "(" ++ l.display ++ " || " ++ r.display ++ ")") ∧
    (∀ p, (Predicate.not p).display = "!" ++ p.display) ∧
    (∀ p, (Predicate.hasChild p).display = "child(" ++ p.display ++ ")") ∧
    (∀ p, (Predicate.hasParent p).display = "parent(" ++ p.display ++ ")") ∧
    ∀ (m : Type → Type) [Monad m] (mode : Mode) (options : TextOptions) (now : Int) (r : Request)
      (file : Path) (there : Stored),
      (runIn mode options now r file there : Work m Unit) = (do
        let view ← viewOf r
        let c ← loaded file there
        if mode.verbose then
          info ("Loaded " ++ toString c.dataset.size ++ " features from " ++ file.text)
        let dataset :=
          { c.dataset with view := view, selected := ← selection c.dataset r.selected }
        let p ← compiled { options := options, context := contextOf dataset, now := now } r.query
        if r.explain then info ("Compiled: " ++ p.grouped)
        report mode r (results { c with dataset := dataset } p r.limit)) := by
  refine ⟨Predicate.display_both, Predicate.display_either, Predicate.display_not,
    Predicate.display_hasChild, Predicate.display_hasParent, ?_⟩
  intro m _ mode options now r file there
  have hgrouped : Predicate.display = Predicate.grouped := funext Predicate.display_eq_grouped
  rw [← hgrouped]
  rfl

end Command.Search

end MapQuery
