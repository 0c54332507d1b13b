import MapQuery.Map.Graph
import Mathlib.Logic.Relation

/-!
# Reaching objects through ways and relations

The paths of a graph along the nodes of ways and the members of relations. Relations may hold
themselves, directly or through others, so paths may run in circles.

* `Graph.Refers` -- an object refers to another one as a node or a member;
* `Graph.Usable`, `Graph.IsNode` -- what is known of the object at a place;
* `Graph.WaysHoldNodes` -- ways are lists of nodes;
* `Graph.Passes` -- a step out of a usable object, and `Graph.PassesUsable`, one between two;
* `last_exit` -- a path can be cut behind its last visit to the object where it starts.
-/

namespace MapQuery

open Relation

namespace Graph

variable {g : Graph} {a c h n : Handle}

/-! ## 1. Objects and steps -/

/-- An object refers to another one: a way to its nodes, a relation to its members. -/
def Refers (g : Graph) (h c : Handle) : Prop := ∃ p, g.get? h = some p ∧ c ∈ p.children

/-- At this place stands an object that is neither deleted nor incomplete. -/
def Usable (g : Graph) (h : Handle) : Prop := ∃ p, g.get? h = some p ∧ p.isUsable = true

/-- At this place stands a node. -/
def IsNode (g : Graph) (h : Handle) : Prop := ∃ p, g.get? h = some p ∧ p.kind = .node

/-- Ways are lists of nodes. -/
def WaysHoldNodes (g : Graph) : Prop :=
  ∀ h p, g.get? h = some p → p.kind = .way → ∀ c ∈ p.children, g.IsNode c

/-- A step out of a usable object. -/
def Passes (g : Graph) (a c : Handle) : Prop := g.Usable a ∧ g.Refers a c

/-- A step between usable objects. -/
def PassesUsable (g : Graph) (a c : Handle) : Prop := g.Passes a c ∧ g.Usable c

theorem isNode_iff {p : Primitive} (hp : g.get? h = some p) : g.IsNode h ↔ p.kind = .node := by
  constructor
  · rintro ⟨q, hq, hk⟩
    rw [hp] at hq
    cases hq
    exact hk
  · exact fun hk => ⟨p, hp, hk⟩

/-- Nodes refer to nothing. -/
theorem not_refers_of_isNode (hn : g.IsNode h) : ¬ g.Refers h c := by
  obtain ⟨p, hp, hk⟩ := hn
  rintro ⟨q, hq, hc⟩
  rw [hp] at hq
  cases hq
  unfold Primitive.kind at hk
  unfold Primitive.children at hc
  cases hs : p.shape with
  | node lat lon =>
    rw [hs] at hc
    exact absurd hc List.not_mem_nil
  | way nodes =>
    rw [hs] at hk
    cases hk
  | relation members =>
    rw [hs] at hk
    cases hk

/-! ## 2. Paths -/

/-- **A path of steps out of usable objects to a usable one has usable objects only.** -/
theorem passes_and_usable_iff :
    ReflTransGen g.Passes h n ∧ g.Usable n ↔ g.Usable h ∧ ReflTransGen g.PassesUsable h n := by
  constructor
  · rintro ⟨hpath, hn⟩
    induction hpath with
    | refl => exact ⟨hn, .refl⟩
    | tail _ hstep ih =>
      obtain ⟨hh, hpath⟩ := ih hstep.1
      exact ⟨hh, hpath.tail ⟨hstep, hn⟩⟩
  · rintro ⟨hh, hpath⟩
    induction hpath with
    | refl => exact ⟨.refl, hh⟩
    | tail _ hstep ih => exact ⟨ih.1.tail hstep.1, hstep.2⟩

/-- **A path passes usable objects up to its end, or up to the first that is not usable.** -/
theorem passes_or_not_usable (hpath : ReflTransGen g.Refers h n) :
    ReflTransGen g.Passes h n ∨ ∃ m, ReflTransGen g.Passes h m ∧ ¬ g.Usable m := by
  induction hpath with
  | refl => exact Or.inl .refl
  | @tail m k _ hstep ih =>
    rcases ih with ih | ih
    · by_cases hm : g.Usable m
      · exact Or.inl (ih.tail ⟨hm, hstep⟩)
      · exact Or.inr ⟨m, ih, hm⟩
    · exact Or.inr ih

/-- Where all that is passed is usable, all that can be reached is passed. -/
theorem forall_refers_iff_passes {P : Handle → Prop} :
    (∀ n, ReflTransGen g.Refers h n → g.Usable n ∧ P n) ↔
      ∀ n, ReflTransGen g.Passes h n → g.Usable n ∧ P n := by
  constructor
  · intro hall n hpath
    have hle : g.Passes ≤ g.Refers := fun _ _ hstep => hstep.2
    exact hall n (ReflTransGen.mono hle h n hpath)
  · intro hall n hpath
    rcases passes_or_not_usable hpath with hpath | ⟨m, hpath, hm⟩
    · exact hall n hpath
    · exact absurd (hall m hpath).1 hm

/-- **The last exit.** A path that leads on from an object and into none of a set leads to that
    object, or out of it into another one from which it never comes back. -/
theorem last_exit {R : Handle → Handle → Prop} {visited : List Handle}
    (hpath : ReflTransGen (fun a c => R a c ∧ c ∉ visited) h n) :
    n = h ∨ ∃ c, R h c ∧ c ∉ h :: visited ∧
      ReflTransGen (fun a c => R a c ∧ c ∉ h :: visited) c n := by
  induction hpath with
  | refl => exact Or.inl rfl
  | @tail m k _ hstep ih =>
    obtain ⟨hmk, hk⟩ := hstep
    by_cases hkh : k = h
    · exact Or.inl hkh
    · have hfresh : k ∉ h :: visited := by
        rw [List.mem_cons, not_or]
        exact ⟨hkh, hk⟩
      right
      rcases ih with rfl | ⟨c, hc, hcv, hcm⟩
      · exact ⟨k, hmk, hfresh, .refl⟩
      · exact ⟨c, hc, hcv, hcm.tail ⟨hmk, hfresh⟩⟩

end Graph

end MapQuery
