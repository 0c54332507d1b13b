import MapQuery.Proofs.Predicate.Kin
import MapQuery.Proofs.Predicate.Renaming
import Mathlib.Data.List.Perm.Basic

/-!
# Documents in another order

Elements that have different keys can stand in any order in a document. References may point
forwards or backwards, and placeholders come in the order in which they are mentioned, so that the
objects of the two maps stand at different places and are registered in a different order; under
each key there is the same object all the same.

* `Reordered` -- documents that differ in the order of their elements;
* `Graph.SameKey` -- two places at which objects with the same key stand;
* `load_reordered`, `reordering_of_load` -- such documents are both accepted or both refused, and
  their maps are maps of the same elements;
* `Reordering` -- two maps of the same elements in different orders;
* `Reordering.renamed` -- their graphs hold the same objects.
-/

namespace MapQuery

/-- Objects with the same key stand at two places of two graphs. -/
def Graph.SameKey (g g' : Graph) (x y : Handle) : Prop :=
  ∃ k, g.keyAt x = some k ∧ g'.keyAt y = some k

theorem Graph.SameKey.symm {g g' : Graph} {x y : Handle} (h : g.SameKey g' x y) :
    g'.SameKey g y x :=
  let ⟨k, hx, hy⟩ := h
  ⟨k, hy, hx⟩

namespace Document

/-! ## 1. Elements in another order -/

/-- The documents differ only in the order of their elements. -/
def Reordered (j j' : Json) : Prop :=
  ∃ items items' box, parts j = some (items, box) ∧ parts j' = some (items', box) ∧
    items.Perm items'

theorem Reordered.symm {j j' : Json} (h : Reordered j j') : Reordered j' j :=
  let ⟨items, items', box, hj, hj', hperm⟩ := h
  ⟨items', items, box, hj', hj, hperm.symm⟩

/-- No two elements of the document have the same kind and number. -/
def DistinctKeys (j : Json) : Prop :=
  ∀ items box, parts j = some (items, box) → ((recognised items).filterMap elementKey?).Nodup

theorem mentions_unique {kind : Kind} {fields : Fields} {ms ms' : List Mention}
    (h : Mentions kind fields ms) (h' : Mentions kind fields ms') : ms = ms' := by
  have hunique (f : Json → Option Mention) : Relator.RightUnique fun j m => f j = some m :=
    fun _ _ _ e e' => Option.some.inj (e.symm.trans e')
  cases kind with
  | node =>
    rw [show ms = [] from h, show ms' = [] from h']
  | way =>
    obtain ⟨items, hi, hms⟩ := h
    obtain ⟨items', hi', hms'⟩ := h'
    cases hi.symm.trans hi'
    exact (hunique _).forall₂ hms hms'
  | relation =>
    obtain ⟨items, hi, hms⟩ := h
    obtain ⟨items', hi', hms'⟩ := h'
    cases hi.symm.trans hi'
    exact (hunique _).forall₂ hms hms'

/-- A value describes one element. -/
theorem Reads.unique : Relator.RightUnique Reads := by
  intro described e e' h h'
  obtain ⟨own, mentions⟩ := e
  obtain ⟨own', mentions'⟩ := e'
  cases Except.ok.inj (h.1.symm.trans h'.1)
  cases mentions_unique h.2 h'.2
  rfl

variable {j j' : Json} {c c' : Content} {es es' : List Element} {k : Key} {r x y : Handle}
  {p p' : Primitive}

/-- **Both documents are accepted if one is**: whether an element can be read does not depend on the
    others. -/
theorem load_reordered (h : Reordered j j') (hj : (load j).outcome = .ok c) :
    ∃ c', (load j').outcome = .ok c' := by
  obtain ⟨items, items', box, hparts, hparts', hperm⟩ := h
  obtain ⟨items₁, box₁, es, b, hparts₁, hes, hb, -⟩ := load_eq_ok_iff.mp hj
  cases hparts.symm.trans hparts₁
  obtain ⟨es', hes', -⟩ := List.perm_comp_forall₂ (hperm.filterMap elementOf).symm hes
  exact ⟨_, load_eq_ok_iff.mpr ⟨items', box, es', b, hparts', hes', hb, rfl⟩⟩

/-! ## 2. Maps of the same elements -/

/-- Two maps of the same elements, which have different keys, in different orders. -/
structure Reordering (c c' : Content) (es es' : List Element) : Prop where
  left : Pictures c es
  right : Pictures c' es'
  perm : es.Perm es'
  nodup : (es.map Element.key).Nodup

theorem elementKeys_of_reads {described : List (Kind × Fields)}
    (hes : List.Forall₂ Reads described es) :
    described.filterMap elementKey? = es.map Element.key := by
  have hkeys := congrArg (List.filterMap id) (keys_of_reads hes)
  rw [List.filterMap_map, List.filterMap_map] at hkeys
  rw [← List.filterMap_eq_map]
  exact hkeys

/-- **The maps of reordered documents are maps of the same elements**, and have the same box. -/
theorem reordering_of_load (h : Reordered j j') (hd : DistinctKeys j)
    (hj : (load j).outcome = .ok c) (hj' : (load j').outcome = .ok c') :
    (∃ es es', Reordering c c' es es') ∧ c.dataset.bounds = c'.dataset.bounds := by
  obtain ⟨items, items', box, hparts, hparts', hperm⟩ := h
  obtain ⟨_, _, es, b, h₁, hes, hb, -, hc, hbounds⟩ := pictures_of_load hj
  obtain ⟨_, _, es', b', h₁', hes', hb', -, hc', hbounds'⟩ := pictures_of_load hj'
  cases hparts.symm.trans h₁
  cases hparts'.symm.trans h₁'
  obtain ⟨es'', hes'', hperm''⟩ := List.perm_comp_forall₂ (hperm.filterMap elementOf).symm hes
  -- the elements read from the second document are those of the first one, put in its order
  cases Reads.unique.forall₂ hes' hes''
  cases hb.symm.trans hb'
  refine ⟨⟨es, es', hc, hc', hperm''.symm, ?_⟩, hbounds.trans hbounds'.symm⟩
  rw [← elementKeys_of_reads hes]
  exact hd items box hparts

theorem lastOf_eq_some_iff_mem (hn : (es.map Element.key).Nodup) {e : Element} :
    lastOf es k = some e ↔ e ∈ es ∧ e.key = k := by
  refine ⟨lastOf_mem, ?_⟩
  rintro ⟨he, rfl⟩
  cases hlast : lastOf es e.key with
  | none => exact absurd (List.mem_map_of_mem he) (lastOf_eq_none_iff.mp hlast)
  | some e' =>
    obtain ⟨he', hkey⟩ := lastOf_mem hlast
    rw [List.inj_on_of_nodup_map hn he' he hkey]

namespace Pictures

theorem keyAt_inj (hc : Pictures c es) (hx : c.graph.keyAt x = some k)
    (hy : c.graph.keyAt y = some k) : x = y := by
  rw [← hc.get?_eq_some_iff] at hx hy
  exact Option.some.inj (hx.symm.trans hy)

theorem size (hc : Pictures c es) : c.graph.objects.size = (keysOf es).length := by
  have hnone : ∀ h, c.graph.objects.size ≤ h ↔ (keysOf es).length ≤ h := by
    intro h
    rw [← Array.getElem?_eq_none_iff, ← List.getElem?_eq_none_iff]
    show c.graph.get? h = none ↔ _
    rw [hc.object, Option.map_eq_none_iff]
  exact Nat.le_antisymm ((hnone _).mpr (Nat.le_refl _)) ((hnone _).mp (Nat.le_refl _))

theorem keyAt_of_get? (hp : c.graph.get? x = some p) : c.graph.keyAt x = some p.key :=
  Graph.keyAt_eq_some_iff.mpr ⟨p, hp, rfl⟩

/-- The object at a place, by its key. -/
theorem eq_objectOf (hc : Pictures c es) (hp : c.graph.get? x = some p)
    (hk : c.graph.keyAt x = some k) : p = { objectOf es k with referrers := p.referrers } := by
  rw [hc.keyAt] at hk
  rw [hc.object, hk] at hp
  cases hp
  rfl

theorem exists_keyAt (hc : Pictures c es) (hk : k ∈ keysOf es) : ∃ x, c.graph.keyAt x = some k :=
  ⟨_, hc.keyAt_idxOf hk⟩

theorem mem_keysOf (hc : Pictures c es) (hk : c.graph.keyAt x = some k) : k ∈ keysOf es := by
  rw [hc.keyAt] at hk
  exact List.mem_of_getElem? hk

end Pictures

namespace Reordering

theorem symm (h : Reordering c c' es es') : Reordering c' c es' es :=
  ⟨h.right, h.left, h.perm.symm, (h.perm.map Element.key).nodup_iff.mp h.nodup⟩

theorem lastOf_eq (h : Reordering c c' es es') (k : Key) : lastOf es k = lastOf es' k := by
  refine Option.ext fun e => ?_
  rw [lastOf_eq_some_iff_mem h.nodup, lastOf_eq_some_iff_mem h.symm.nodup, h.perm.mem_iff]

theorem mem_keysOf_iff (h : Reordering c c' es es') : k ∈ keysOf es ↔ k ∈ keysOf es' := by
  unfold keysOf
  rw [List.mem_eraseDups, List.mem_eraseDups, List.mem_append, List.mem_append,
    (h.perm.map Element.key).mem_iff, (h.perm.flatMap_right Element.targets).mem_iff]

/-- **Both maps have the same keys.** -/
theorem keysOf_perm (h : Reordering c c' es es') : (keysOf es).Perm (keysOf es') :=
  (List.perm_ext_iff_of_nodup (nodup_eraseDups _) (nodup_eraseDups _)).mpr fun _ => h.mem_keysOf_iff

/-- Each object has one with the same key in the other map. -/
theorem exists_sameKey (h : Reordering c c' es es') (hx : c.graph.keyAt x = some k) :
    ∃ y, c.graph.SameKey c'.graph x y := by
  obtain ⟨y, hy⟩ := h.right.exists_keyAt (h.mem_keysOf_iff.mp (h.left.mem_keysOf hx))
  exact ⟨y, k, hx, hy⟩

theorem oneToOne (h : Reordering c c' es es') {x' y' : Handle}
    (hxy : c.graph.SameKey c'.graph x y) (hxy' : c.graph.SameKey c'.graph x' y') :
    x = x' ↔ y = y' := by
  obtain ⟨k, hx, hy⟩ := hxy
  obtain ⟨k', hx', hy'⟩ := hxy'
  constructor
  · rintro rfl
    cases hx.symm.trans hx'
    exact h.right.keyAt_inj hy hy'
  · rintro rfl
    cases hy.symm.trans hy'
    exact h.left.keyAt_inj hx hx'

/-- What is mentioned under a key stands at places with the same keys. -/
theorem membersAt_alike (h : Reordering c c' es es') (k : Key) :
    List.Forall₂ (fun m m' : Member => m.role = m'.role ∧
        c.graph.SameKey c'.graph m.target m'.target)
      (membersAt (keysOf es).idxOf (mentionsOf es k))
      (membersAt (keysOf es').idxOf (mentionsOf es k)) := by
  unfold membersAt
  rw [List.forall₂_map_left_iff, List.forall₂_map_right_iff, List.forall₂_same]
  intro m hm
  have hk := mem_keysOf_of_mentionsOf hm
  exact ⟨rfl, m.key, h.left.keyAt_idxOf hk, h.right.keyAt_idxOf (h.mem_keysOf_iff.mp hk)⟩

/-- **The objects under a key say the same of themselves and hold the same objects.** -/
theorem objectOf_alike (h : Reordering c c' es es') (k : Key) :
    (objectOf es k).shape.Alike (c.graph.SameKey c'.graph) (objectOf es' k).shape ∧
      objectOf es' k = { objectOf es k with shape := (objectOf es' k).shape } := by
  have hmembers := h.membersAt_alike k
  unfold objectOf
  unfold mentionsOf at hmembers
  rw [← h.lastOf_eq]
  cases hlast : lastOf es k with
  | none =>
    refine ⟨?_, rfl⟩
    unfold Primitive.placeholder
    cases k.kind with
    | node => exact .node none none
    | way => exact .way .nil
    | relation => exact .relation .nil
  | some e =>
    rw [hlast] at hmembers
    refine ⟨?_, rfl⟩
    simp only [linked]
    cases e.own.shape with
    | node lat lon => exact .node lat lon
    | way nodes =>
      refine .way ?_
      rw [List.forall₂_map_left_iff, List.forall₂_map_right_iff]
      exact hmembers.imp fun _ _ hm => hm.2
    | relation members => exact .relation hmembers

theorem shape_alike (h : Reordering c c' es es') (hxy : c.graph.SameKey c'.graph x y)
    (hp : c.graph.get? x = some p) (hp' : c'.graph.get? y = some p') :
    p.shape.Alike (c.graph.SameKey c'.graph) p'.shape := by
  obtain ⟨k, hx, hy⟩ := hxy
  rw [h.left.eq_objectOf hp hx, h.right.eq_objectOf hp' hy]
  exact (h.objectOf_alike k).1

/-- **Who refers to an object in one map has its like in the other.** -/
theorem exists_refers (h : Reordering c c' es es') (hxy : c.graph.SameKey c'.graph x y)
    (hr : c.graph.Refers r x) : ∃ r', c'.graph.Refers r' y ∧ c.graph.SameKey c'.graph r r' := by
  obtain ⟨q, hq, hx⟩ := hr
  obtain ⟨r', hrr⟩ := h.exists_sameKey (Pictures.keyAt_of_get? hq)
  have ⟨_, _, hr'⟩ := hrr
  obtain ⟨q', hq', -⟩ := Graph.keyAt_eq_some_iff.mp hr'
  obtain ⟨y', hy', hxy'⟩ := exists_of_mem_left (h.shape_alike hrr hq hq').children hx
  -- the like of `x` among what `r'` holds is `y`, since an object has one place
  cases (h.oneToOne hxy hxy').mp rfl
  exact ⟨r', ⟨q', hq', hy'⟩, hrr⟩

/-- **The graphs hold the same objects.** -/
theorem renamed (h : Reordering c c' es es') :
    c.graph.Renamed (c.graph.SameKey c'.graph) c'.graph where
  size := by rw [h.left.size, h.right.size, h.keysOf_perm.length_eq]
  oneToOne := h.oneToOne
  object := by
    intro x y hxy
    have ⟨k, hx, hy⟩ := hxy
    obtain ⟨p, hp, -⟩ := Graph.keyAt_eq_some_iff.mp hx
    obtain ⟨p', hp', -⟩ := Graph.keyAt_eq_some_iff.mp hy
    refine ⟨p, p', hp, hp', ?_, h.shape_alike hxy hp hp', fun r hr => ?_, fun r' hr' => ?_⟩
    · rw [h.left.eq_objectOf hp hx, h.right.eq_objectOf hp' hy, (h.objectOf_alike k).2]
    · obtain ⟨r', hr', hrr⟩ := h.exists_refers hxy ((h.left.mem_referrers_iff hp).mp hr)
      exact ⟨r', (h.right.mem_referrers_iff hp').mpr hr', hrr⟩
    · obtain ⟨r, hr, hrr⟩ := h.symm.exists_refers hxy.symm ((h.right.mem_referrers_iff hp').mp hr')
      exact ⟨r, (h.left.mem_referrers_iff hp).mpr hr, hrr.symm⟩

end Reordering

end Document

end MapQuery
