/-!
# Kinds of map objects

A map consists of nodes, ways and relations. An object is known by its kind and its number.
-/

namespace MapQuery

/-- The kind of an object of the map. -/
inductive Kind where
  | node | way | relation
  deriving DecidableEq, Repr

namespace Kind

/-- The name of a kind. -/
def name : Kind → String
  | .node => "node"
  | .way => "way"
  | .relation => "relation"

/-- The kind with a name. -/
def ofName (s : String) : Option Kind :=
  if s = "node" then some .node
  else if s = "way" then some .way
  else if s = "relation" then some .relation
  else none

/-- **Names tell kinds apart.** -/
theorem ofName_eq_some_iff (s : String) (k : Kind) : ofName s = some k ↔ s = k.name := by
  cases k <;> simp only [ofName, name] <;> (repeat' split) <;> simp_all

/-- The place of a kind when kinds are ordered by name. -/
def rank : Kind → Nat
  | .node => 0
  | .relation => 1
  | .way => 2

end Kind

/-- What an object is known by. -/
structure Key where
  kind : Kind
  id : Int
  deriving DecidableEq, Repr

namespace Key

/-- A key as people write it: `way/10`. -/
def reference (k : Key) : String :=
  k.kind.name ++ "/" ++ toString k.id

/-- Keys ordered by the name of their kind, then by number. -/
def le (a b : Key) : Bool :=
  if a.kind.rank = b.kind.rank then decide (a.id ≤ b.id) else decide (a.kind.rank < b.kind.rank)

/-- Any two keys stand in an order. -/
theorem le_total (a b : Key) : (le a b || le b a) = true := by
  unfold le
  by_cases h : a.kind.rank = b.kind.rank
  · rw [if_pos h, if_pos h.symm, Bool.or_eq_true, decide_eq_true_eq, decide_eq_true_eq]
    exact Int.le_total a.id b.id
  · rw [if_neg h, if_neg fun e => h e.symm, Bool.or_eq_true, decide_eq_true_eq, decide_eq_true_eq]
    omega

/-- The order of keys goes on. -/
theorem le_trans (a b c : Key) (h : le a b = true) (h' : le b c = true) : le a c = true := by
  unfold le at *
  split at h <;> split at h' <;> split <;> simp_all <;> omega

end Key

end MapQuery
