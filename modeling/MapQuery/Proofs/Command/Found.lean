import MapQuery.Command.Search
import MapQuery.Proofs.Map.Reorder

/-!
# What a search finds in a document in another order

The objects that pass a predicate are sorted by their keys, so that it does not matter in which
order the map has them: of the same elements the same objects are found, and they are printed alike.

* `Graph.passes`, `select_eq` -- the objects that pass a predicate that has no fault;
* `Graph.found`, `map_key_found` -- these objects sorted, and their keys;
* `Reordering.found_alike` -- in two maps of the same elements the same objects are found;
* `printResults_alike` -- the same objects are printed alike.
-/

namespace MapQuery

/-! ## 1. Keys in order -/

/-- Kinds are told apart by where they come in order. -/
theorem Kind.rank_injective : Function.Injective Kind.rank := by
  intro k k' h
  cases k <;> cases k' <;> first | rfl | cases h

theorem Key.le_antisymm {a b : Key} (h : a.le b = true) (h' : b.le a = true) : a = b := by
  obtain ⟨kind, id⟩ := a
  obtain ⟨kind', id'⟩ := b
  unfold Key.le at h h'
  simp only at h h'
  by_cases e : kind.rank = kind'.rank
  · rw [if_pos e, decide_eq_true_eq] at h
    rw [if_pos e.symm, decide_eq_true_eq] at h'
    rw [Kind.rank_injective e, Int.le_antisymm h h']
  · rw [if_neg e, decide_eq_true_eq] at h
    rw [if_neg (Ne.symm e), decide_eq_true_eq] at h'
    exact absurd (Nat.lt_trans h h') (Nat.lt_irrefl _)

/-- **Sorted keys do not show in which order they were before.** -/
theorem Key.mergeSort_eq {ks ks' : List Key} (h : ks.Perm ks') :
    ks.mergeSort Key.le = ks'.mergeSort Key.le :=
  List.Perm.eq_of_pairwise (fun _ _ _ _ => Key.le_antisymm)
    (List.pairwise_mergeSort Key.le_trans Key.le_total ks)
    (List.pairwise_mergeSort Key.le_trans Key.le_total ks')
    ((List.mergeSort_perm ks _).trans (h.trans (List.mergeSort_perm ks' _).symm))

/-! ## 2. What passes -/

namespace Graph

variable {g : Graph} {selection : Option (List Key)} {q : Predicate} {h : Handle}

/-- Is a predicate true, without a fault, of the object at a place? -/
def passes (g : Graph) (selection : Option (List Key)) (q : Predicate) (h : Handle) : Bool :=
  match g.holds selection q h with
  | .ok b => b
  | .error _ => false

theorem passes_iff : g.passes selection q h = true ↔ g.holds selection q h = .ok true := by
  unfold passes
  cases g.holds selection q h with
  | error e => exact ⟨fun h => (nomatch h), fun h => nomatch h⟩
  | ok b => exact Except.ok.injEq b true ▸ Iff.rfl

/-- **What is selected is what passes**, where the predicate has no fault. -/
theorem select_eq {hs : List Handle} (hall : ∀ h ∈ hs, ∃ b, g.holds selection q h = .ok b) :
    g.select selection q hs = .ok (hs.filter (g.passes selection q)) := by
  induction hs with
  | nil => rfl
  | cons h r ih =>
    obtain ⟨b, hb⟩ := hall h List.mem_cons_self
    have hpasses : g.passes selection q h = b := by
      unfold passes
      rw [hb]
    rw [select, hb, ih fun x hx => hall x (List.mem_cons_of_mem h hx), List.filter_cons, hpasses]
    rfl

/-- The objects of a list that pass, in the order in which they are printed. -/
def found (g : Graph) (selection : Option (List Key)) (q : Predicate) (hs : List Handle) :
    List Primitive :=
  (g.resolve (hs.filter (g.passes selection q))).mergeSort fun a b => a.key.le b.key

/-- The keys of objects that are sorted by them are their keys, sorted. -/
theorem map_key_found (g : Graph) (selection : Option (List Key)) (q : Predicate)
    (hs : List Handle) : (g.found selection q hs).map Primitive.key =
      ((hs.filter (g.passes selection q)).filterMap g.keyAt).mergeSort Key.le := by
  unfold found
  rw [List.map_mergeSort (s := Key.le) fun _ _ _ _ => rfl]
  unfold resolve keyAt
  rw [List.map_filterMap]

theorem exists_of_mem_found {hs : List Handle} {p : Primitive}
    (hp : p ∈ g.found selection q hs) : ∃ x, g.get? x = some p := by
  unfold found at hp
  obtain ⟨x, -, hx⟩ := List.mem_filterMap.mp ((List.mergeSort_perm _ _).mem_iff.mp hp)
  exact ⟨x, hx⟩

end Graph

/-- No two objects that pass have the same key. -/
theorem Document.Pictures.nodup_passing {c : Content} {es : List Element} (hc : Pictures c es)
    (selection : Option (List Key)) (q : Predicate) :
    ((c.dataset.handles.filter (c.graph.passes selection q)).filterMap c.graph.keyAt).Nodup := by
  refine List.Nodup.filterMap (fun x y k hx hy => hc.keyAt_inj hx hy) ?_
  rw [hc.handles]
  exact List.nodup_range.filter _

namespace Document.Reordering

variable {c c' : Content} {es es' : List Element} {selection : Option (List Key)} {q : Predicate}
  {k : Key}

/-- A key whose object passes in one map is the key of an object that passes in the other. -/
theorem mem_passing (h : Reordering c c' es es')
    (hall' : ∀ y ∈ c'.dataset.handles, ∃ b, c'.graph.holds selection q y = .ok b)
    (hk : k ∈ (c.dataset.handles.filter (c.graph.passes selection q)).filterMap c.graph.keyAt) :
    k ∈ (c'.dataset.handles.filter (c'.graph.passes selection q)).filterMap c'.graph.keyAt := by
  obtain ⟨x, hx, hxk⟩ := List.mem_filterMap.mp hk
  obtain ⟨-, hpass⟩ := List.mem_filter.mp hx
  obtain ⟨y, hxy⟩ := h.exists_sameKey hxk
  have ⟨k', hxk', hyk⟩ := hxy
  cases hxk.symm.trans hxk'
  obtain ⟨p, hp, -⟩ := Graph.keyAt_eq_some_iff.mp hyk
  have hy : y ∈ c'.dataset.handles := h.right.mem_handles_iff.mpr ⟨p, hp⟩
  obtain ⟨b, hb⟩ := hall' y hy
  cases h.renamed.holds_agree selection q hxy _ _ (Graph.passes_iff.mp hpass) hb
  exact List.mem_filterMap.mpr ⟨y, List.mem_filter.mpr ⟨hy, Graph.passes_iff.mpr hb⟩, hyk⟩

variable (hall : ∀ x ∈ c.dataset.handles, ∃ b, c.graph.holds selection q x = .ok b)
  (hall' : ∀ y ∈ c'.dataset.handles, ∃ b, c'.graph.holds selection q y = .ok b)

include hall hall'

/-- **The objects that pass have the same keys in both maps.** -/
theorem passing_perm (h : Reordering c c' es es') :
    ((c.dataset.handles.filter (c.graph.passes selection q)).filterMap c.graph.keyAt).Perm
      ((c'.dataset.handles.filter (c'.graph.passes selection q)).filterMap c'.graph.keyAt) :=
  (List.perm_ext_iff_of_nodup (h.left.nodup_passing selection q)
    (h.right.nodup_passing selection q)).mpr fun _ =>
    ⟨h.mem_passing hall', h.symm.mem_passing hall⟩

/-- **The same objects are found in both maps**, one after the other. -/
theorem found_alike (h : Reordering c c' es es') :
    List.Forall₂ (Primitive.Alike (c.graph.SameKey c'.graph))
      (c.graph.found selection q c.dataset.handles)
      (c'.graph.found selection q c'.dataset.handles) := by
  have hkeys := Key.mergeSort_eq (h.passing_perm hall hall')
  rw [← Graph.map_key_found, ← Graph.map_key_found, ← List.forall₂_eq_eq_eq,
    List.forall₂_map_left_iff, List.forall₂_map_right_iff, List.forall₂_iff_zip] at hkeys
  refine List.forall₂_iff_zip.mpr ⟨hkeys.1, fun {p p'} hpp => ?_⟩
  obtain ⟨x, hx⟩ := Graph.exists_of_mem_found (List.of_mem_zip hpp).1
  obtain ⟨y, hy⟩ := Graph.exists_of_mem_found (List.of_mem_zip hpp).2
  have hxy : c.graph.SameKey c'.graph x y :=
    ⟨p.key, Pictures.keyAt_of_get? hx, hkeys.2 hpp ▸ Pictures.keyAt_of_get? hy⟩
  -- found one beside the other, the two have the same key, and so are the same object
  obtain ⟨_, _, hx₁, hy₁, ha⟩ := h.renamed.object hxy
  cases hx.symm.trans hx₁
  cases hy.symm.trans hy₁
  exact ha

end Document.Reordering

/-! ## 3. Printing -/

namespace Command.Search

variable {R : Handle → Handle → Prop} {p p' : Primitive} {found found' : List Primitive}

theorem map_eq_of_forall₂ {α β γ : Type} {S : α → β → Prop} {l : List α} {l' : List β}
    {f : α → γ} {f' : β → γ} (h : List.Forall₂ S l l') (hf : ∀ a b, S a b → f a = f' b) :
    l.map f = l'.map f' := by
  rw [← List.forall₂_eq_eq_eq, List.forall₂_map_left_iff, List.forall₂_map_right_iff]
  exact h.imp hf

/-- What is printed of an object it says of itself, or its kind does. -/
theorem featureJson_eq (ha : p.Alike R p') : featureJson p = featureJson p' := by
  have hkind := ha.kind
  obtain ⟨shape, referrers, rfl⟩ := ha.exists_eq
  unfold featureJson
  rw [hkind]

theorem row_eq (ha : p.Alike R p') : row p = row p' := by
  have hkind := ha.kind
  obtain ⟨shape, referrers, rfl⟩ := ha.exists_eq
  unfold row
  rw [hkind]
  rfl

theorem idsText_eq (h : List.Forall₂ (Primitive.Alike R) found found') :
    idsText found = idsText found' := by
  unfold idsText
  rw [map_eq_of_forall₂ h fun p p' ha => by rw [ha.key]]

theorem rows_eq (h : List.Forall₂ (Primitive.Alike R) found found') :
    found.mapM row = found'.mapM row := by
  induction h with
  | nil => rfl
  | cons ha _ ih => rw [List.mapM_cons, List.mapM_cons, row_eq ha, ih]

/-- The first object whose editor has no name is the same. -/
theorem misnamed_eq (h : List.Forall₂ (Primitive.Alike R) found found') :
    ((found.find? fun p => (userText p).isNone).map fun p => Field.typeName p.user) =
      (found'.find? fun p => (userText p).isNone).map fun p => Field.typeName p.user := by
  induction h with
  | nil => rfl
  | @cons p _ _ _ ha _ ih =>
    obtain ⟨shape, referrers, rfl⟩ := ha.exists_eq
    rw [List.find?_cons, List.find?_cons]
    unfold userText at ih ⊢
    dsimp only
    cases (if p.user.isEmptyLike then some (("" : String) : Rough) else p.user.text?).isNone with
    | true => rfl
    | false => exact ih

variable {m : Type → Type} [Monad m]

/-- **The same objects are printed alike**, in every format. -/
theorem printResults_alike (mode : Mode) (r : Request)
    (h : List.Forall₂ (Primitive.Alike R) found found') :
    (printResults mode r found : Work m Unit) = printResults mode r found' := by
  unfold printResults
  cases r.format with
  | ids =>
    simp only
    rw [idsText_eq h]
  | json =>
    simp only
    unfold jsonText
    rw [map_eq_of_forall₂ h fun _ _ => featureJson_eq]
  | table =>
    simp only
    unfold printTable
    rw [h.length_eq, rows_eq h, misnamed_eq h]

end Command.Search

end MapQuery
