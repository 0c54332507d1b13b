import MapQuery.Predicate.Match

/-!
# Chains mean what their nesting says

Conjunctions and disjunctions are evaluated by one loop along the right operands, from which left
operands, negations, children and parents lead back to the evaluation of single predicates. Here the
same outcomes are given by recursion on the predicate alone, faults and all.

* `Graph.meaning` -- the outcome of a predicate by recursion on it;
* `chainHoldsAt_eq` -- from each link on, the loop has the outcome of the two operands joined there;
* `holdsAt_both`, `holdsAt_either` -- joined predicates by their operands;
* `holdsAt_eq_meaning` -- evaluation is the recursion.
-/

namespace MapQuery

/-- Two outcomes joined: the second one counts only if the first has not settled the matter. -/
def Outcome.joined : Joint → Outcome → Outcome → Outcome
  | .and, a, b => a.andThen fun _ => b
  | .or, a, b => a.orElse fun _ => b

theorem Outcome.joined_ok (j : Joint) (b : Bool) (o : Outcome) :
    Outcome.joined j (.ok b) o = if j.settledBy b then .ok b else o := by
  cases j <;> cases b <;> rfl

namespace Graph

/-! ## 1. Recursion on the predicate -/

/-- The outcome of a predicate on the object at a place, by recursion on the predicate. -/
def meaning (g : Graph) (selection : Option (List Key)) : Predicate → Handle → Primitive → Outcome
  | .always, _, _ => .ok true
  | .never, _, _ => .ok false
  | .not q, h, p => (g.meaning selection q h p).negate
  | .both l r, h, p => (g.meaning selection l h p).andThen fun _ => g.meaning selection r h p
  | .either l r, h, p => (g.meaning selection l h p).orElse fun _ => g.meaning selection r h p
  | .id n, _, p => .ok (if n = 0 then p.isNew else p.id == n)
  | .changeset n, _, p => .ok (p.changeset == n)
  | .version n, _, p => .ok (p.version == n)
  | .substring t, _, p => t.holds p
  | .exact t, _, p => .ok (t.holds p.tags)
  | .flag key fallback, _, p => .ok (flagHolds p.tags key fallback)
  | .text t, _, p => .ok (t.holds p)
  | .kind k, _, p => .ok (p.kind == k)
  | .user name, _, p => .ok (userIs p.user name)
  | .role name, h, p => .ok (g.hasRole h p name)
  | .count d r, _, p => g.countHolds d r p
  | .status s, _, p => .ok (hasStatus selection p s)
  | .hasChild q, _, p =>
    Outcome.anyOf (fun c => match g.get? c with
      | some child => g.meaning selection q c child
      | none => .ok false) p.children
  | .hasParent q, _, p =>
    Outcome.anyOf (fun r => match g.get? r with
      | some parent => g.meaning selection q r parent
      | none => .ok false) p.referrers
  | .area t, h, _ => .ok (g.inArea t h)

/-! ## 2. The loop -/

variable {g : Graph} {selection : Option (List Key)} {h : Handle} {p : Primitive}

/-- **From each link on, the loop has the outcome of the two operands joined there.** What is left
    of the chain behind the link is evaluated like a predicate of its own. -/
theorem chainHoldsAt_eq (l : Predicate) (j : Joint) (r : Predicate) :
    g.chainHoldsAt selection l j r h p =
      Outcome.joined j (g.holdsAt selection l h p) (g.holdsAt selection r h p) := by
  rw [chainHoldsAt.eq_def]
  cases hl : g.holdsAt selection l h p with
  | error e => cases j <;> rfl
  | ok b =>
    rw [Outcome.joined_ok]
    -- the loop does by cases what the evaluation of the right operand does
    cases r with
    | both l r => rw [holdsAt]
    | either l r => rw [holdsAt]
    | _ => rfl

theorem holds_of_get? (hp : g.get? h = some p) (q : Predicate) :
    g.holds selection q h = g.holdsAt selection q h p := by
  unfold holds
  rw [hp]

theorem holdsAt_both (l r : Predicate) : g.holdsAt selection (.both l r) h p =
    (g.holdsAt selection l h p).andThen fun _ => g.holdsAt selection r h p := by
  rw [holdsAt, chainHoldsAt_eq]
  rfl

theorem holdsAt_either (l r : Predicate) : g.holdsAt selection (.either l r) h p =
    (g.holdsAt selection l h p).orElse fun _ => g.holdsAt selection r h p := by
  rw [holdsAt, chainHoldsAt_eq]
  rfl

theorem holdsAt_not (q : Predicate) : g.holdsAt selection (.not q) h p =
    (g.holdsAt selection q h p).negate := by
  rw [holdsAt]

/-- Children are looked at in order until one passes. -/
theorem holdsAt_hasChild (q : Predicate) : g.holdsAt selection (.hasChild q) h p =
    Outcome.anyOf (g.holds selection q) p.children := by
  rw [holdsAt]
  rfl

/-- Parents are looked at in order until one passes. -/
theorem holdsAt_hasParent (q : Predicate) : g.holdsAt selection (.hasParent q) h p =
    Outcome.anyOf (g.holds selection q) p.referrers := by
  rw [holdsAt]
  rfl

/-! ## 3. Both agree -/

/-- Objects are tested alike if both evaluations agree on each of them. -/
theorem anyOf_holds_eq {q : Predicate}
    (hq : ∀ h p, g.holdsAt selection q h p = g.meaning selection q h p) (hs : List Handle) :
    Outcome.anyOf (g.holds selection q) hs = Outcome.anyOf (fun c => match g.get? c with
      | some o => g.meaning selection q c o
      | none => .ok false) hs := by
  refine congrArg (fun test => Outcome.anyOf test hs) (funext fun c => ?_)
  unfold holds
  cases g.get? c with
  | none => rfl
  | some o => exact hq c o

/-- **The loop along chains is the recursion on predicates**: on every object, and with every
    selection, a predicate is true, false or the same fault either way. -/
theorem holdsAt_eq_meaning (g : Graph) (selection : Option (List Key)) (q : Predicate) (h : Handle)
    (p : Primitive) : g.holdsAt selection q h p = g.meaning selection q h p := by
  induction q generalizing h p with
  | not q ih => rw [holdsAt_not, meaning, ih]
  | both l r ihl ihr => rw [holdsAt_both, meaning, ihl, ihr]
  | either l r ihl ihr => rw [holdsAt_either, meaning, ihl, ihr]
  | hasChild q ih =>
    rw [holdsAt_hasChild, meaning]
    exact anyOf_holds_eq ih p.children
  | hasParent q ih =>
    rw [holdsAt_hasParent, meaning]
    exact anyOf_holds_eq ih p.referrers
  | _ => rw [holdsAt, meaning]

end Graph

end MapQuery
