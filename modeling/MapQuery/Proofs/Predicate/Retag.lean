import MapQuery.Proofs.Predicate.Chain
import MapQuery.Proofs.Query.Invariants

/-!
# Objects with other tags

Most tests do not look at tags: they ask for numbers, editors, nodes, members and referrers. If the
tags of all objects are exchanged, a predicate has the same outcome as long as the tests in it that
do look at tags have.

* `Graph.retag` -- a graph with other tags on its objects;
* `hasRole_retag`, `countHolds_retag`, `inArea_retag` -- the tests that go through the graph;
* `Predicate.readsTags` -- the tests that look at tags;
* `holds_retag` -- a predicate depends on tags through these only, by induction on it.
-/

namespace MapQuery

/-- An object with other tags. -/
def Primitive.retag (p : Primitive) (t : Tags) : Primitive := { p with tags := t }

/-- Does a predicate look at the tags of the object itself? -/
def Predicate.readsTags : Predicate → Bool
  | .substring _ | .exact _ | .flag _ _ | .text _ | .count .tags _ | .status .untagged => true
  | _ => false

namespace Graph

/-- A graph with other tags on its objects. -/
def retag (g : Graph) (tags : Handle → Tags) : Graph :=
  ⟨g.objects.mapIdx fun h p => p.retag (tags h)⟩

variable {g : Graph} {tags : Handle → Tags} {selection : Option (List Key)}

theorem get?_retag (h : Handle) :
    (g.retag tags).get? h = (g.get? h).map fun p => p.retag (tags h) :=
  Array.getElem?_mapIdx

/-! ## 1. Tests that go through the graph -/

theorem hasRole_retag (h : Handle) (p : Primitive) (t : Tags) (name : String) :
    (g.retag tags).hasRole h (p.retag t) name = g.hasRole h p name := by
  unfold hasRole resolve
  rw [List.any_filterMap, List.any_filterMap]
  refine congrArg (fun test => p.referrers.any test) (funext fun r => ?_)
  rw [get?_retag]
  cases g.get? r <;> rfl

theorem ring?_retag (nodes : List Handle) : (g.retag tags).ring? nodes = g.ring? nodes := by
  unfold ring?
  refine congrArg (fun point => nodes.mapM point) (funext fun h => ?_)
  rw [get?_retag]
  cases g.get? h <;> rfl

/-- Every quantity but the number of tags is the same. -/
theorem countHolds_retag {d : Dimension} (hd : d ≠ .tags) (r : Range) (p : Primitive) (t : Tags) :
    (g.retag tags).countHolds d r (p.retag t) = g.countHolds d r p := by
  have harea : (g.retag tags).area? (p.retag t) = g.area? p := by
    unfold area? signedArea?
    rw [show (p.retag t).nodes? = p.nodes? from rfl]
    cases p.nodes? with
    | none => rfl
    | some nodes =>
      dsimp only
      rw [ring?_retag]
      rfl
  unfold countHolds measure
  cases d with
  | tags => exact absurd rfl hd
  | nodes | timestamp => rfl
  | area => rw [harea]

theorem inBounds_retag (b : Bounds) (q : Quantifier) (fuel : Nat) :
    (g.retag tags).inBounds b q fuel = g.inBounds b q fuel := by
  induction fuel with
  | zero => rfl
  | succ fuel ih =>
    funext visited h
    unfold inBounds
    rw [get?_retag, ih]
    cases g.get? h <;> rfl

theorem inArea_retag (t : AreaTest) (h : Handle) : (g.retag tags).inArea t h = g.inArea t h := by
  have hsize : (g.retag tags).objects.size = g.objects.size := Array.size_mapIdx
  unfold inArea
  rw [hsize]
  cases t.bounds with
  | none => rfl
  | some b => exact congrFun (congrFun (inBounds_retag b _ _) _) h

/-! ## 2. Predicates -/

/-- A predicate that agrees on all objects agrees on children and parents. -/
theorem anyOf_retag {q : Predicate} (hq : ∀ h p, g.get? h = some p →
      (g.retag tags).holdsAt selection q h (p.retag (tags h)) = g.holdsAt selection q h p)
    (hs : List Handle) : Outcome.anyOf ((g.retag tags).holds selection q) hs =
      Outcome.anyOf (g.holds selection q) hs := by
  refine congrArg (fun test => Outcome.anyOf test hs) (funext fun h => ?_)
  unfold holds
  rw [get?_retag]
  cases hp : g.get? h with
  | none => rfl
  | some p => exact hq h p hp

theorem holdsAt_retag (q : Predicate)
    (hq : ∀ r ∈ q.parts, r.readsTags = true → ∀ h p, g.get? h = some p →
      (g.retag tags).holdsAt selection r h (p.retag (tags h)) = g.holdsAt selection r h p)
    {h : Handle} {p : Primitive} (hp : g.get? h = some p) :
    (g.retag tags).holdsAt selection q h (p.retag (tags h)) = g.holdsAt selection q h p := by
  induction q generalizing h p with
  | not q ih =>
    obtain ⟨-, hin⟩ := Predicate.forall_parts_iff.mp hq
    rw [holdsAt_not, holdsAt_not, ih (hin q (by simp [Predicate.operands])) hp]
  | both l r ihl ihr =>
    obtain ⟨-, hin⟩ := Predicate.forall_parts_iff.mp hq
    rw [holdsAt_both, holdsAt_both, ihl (hin l (by simp [Predicate.operands])) hp,
      ihr (hin r (by simp [Predicate.operands])) hp]
  | either l r ihl ihr =>
    obtain ⟨-, hin⟩ := Predicate.forall_parts_iff.mp hq
    rw [holdsAt_either, holdsAt_either, ihl (hin l (by simp [Predicate.operands])) hp,
      ihr (hin r (by simp [Predicate.operands])) hp]
  | hasChild q ih =>
    obtain ⟨-, hin⟩ := Predicate.forall_parts_iff.mp hq
    rw [holdsAt_hasChild, holdsAt_hasChild]
    exact anyOf_retag (fun _ _ => ih (hin q (by simp [Predicate.operands]))) p.children
  | hasParent q ih =>
    obtain ⟨-, hin⟩ := Predicate.forall_parts_iff.mp hq
    rw [holdsAt_hasParent, holdsAt_hasParent]
    exact anyOf_retag (fun _ _ => ih (hin q (by simp [Predicate.operands]))) p.referrers
  | role name => rw [holdsAt, holdsAt, hasRole_retag]
  | area t => rw [holdsAt, holdsAt, inArea_retag]
  | count d r =>
    by_cases hd : d = .tags
    · subst hd
      exact (Predicate.forall_parts_iff.mp hq).1 rfl h p hp
    · rw [holdsAt, holdsAt, countHolds_retag hd]
  | status s =>
    cases s with
    | untagged => exact (Predicate.forall_parts_iff.mp hq).1 rfl h p hp
    | _ =>
      rw [holdsAt, holdsAt]
      rfl
  | substring | exact | flag | text => exact (Predicate.forall_parts_iff.mp hq).1 rfl h p hp
  | always | never => rw [holdsAt, holdsAt]
  | _ =>
    rw [holdsAt, holdsAt]
    rfl

/-- **A predicate depends on tags only through the tests in it that look at them.** -/
theorem holds_retag (q : Predicate)
    (hq : ∀ r ∈ q.parts, r.readsTags = true → ∀ h p, g.get? h = some p →
      (g.retag tags).holdsAt selection r h (p.retag (tags h)) = g.holdsAt selection r h p)
    (h : Handle) : (g.retag tags).holds selection q h = g.holds selection q h := by
  unfold holds
  rw [get?_retag]
  cases hp : g.get? h with
  | none => rfl
  | some p => exact holdsAt_retag q hq hp

end Graph

end MapQuery
