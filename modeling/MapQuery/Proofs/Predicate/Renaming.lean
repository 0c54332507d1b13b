import MapQuery.Proofs.Map.Element
import MapQuery.Proofs.Predicate.Area
import MapQuery.Proofs.Predicate.Chain
import MapQuery.Proofs.Predicate.Outcome

/-!
# Places do not matter to predicates

Two graphs may hold the same objects at different places, and registered in a different order. No
predicate tells them apart: where it has a truth value on an object of one and on the same object of
the other, it is the same. One of them may still meet a fault that the other passes by, since it
looks at parents in its own order.

* `Graph.Renamed` -- two graphs hold the same objects, by a relation between their places;
* `hasRole`, `inArea`, `countHolds` -- the tests that look further than at the object itself;
* `holds_agree` -- predicates agree on the same objects of such graphs.
-/

namespace MapQuery

/-! ## 1. The same objects at other places -/

variable {R : Handle → Handle → Prop}

/-- Shapes that hold the same objects in the same order. -/
inductive Shape.Alike (R : Handle → Handle → Prop) : Shape → Shape → Prop where
  | node (lat lon : Option Float) : Shape.Alike R (.node lat lon) (.node lat lon)
  | way {nodes nodes' : List Handle} :
    List.Forall₂ R nodes nodes' → Shape.Alike R (.way nodes) (.way nodes')
  | relation {members members' : List Member} :
    List.Forall₂ (fun m m' => m.role = m'.role ∧ R m.target m'.target) members members' →
      Shape.Alike R (.relation members) (.relation members')

/-- Objects that say the same of themselves, hold the same objects in the same order, and are held
    by the same ones in any order. -/
structure Primitive.Alike (R : Handle → Handle → Prop) (p p' : Primitive) : Prop where
  own : p' = { p with shape := p'.shape, referrers := p'.referrers }
  shape : p.shape.Alike R p'.shape
  referrers : ∀ r ∈ p.referrers, ∃ r' ∈ p'.referrers, R r r'
  referrers' : ∀ r' ∈ p'.referrers, ∃ r ∈ p.referrers, R r r'

/-- Two graphs hold the same objects, at places that are related one to one. -/
structure Graph.Renamed (R : Handle → Handle → Prop) (g g' : Graph) : Prop where
  size : g.objects.size = g'.objects.size
  oneToOne : ∀ {x y x' y'}, R x y → R x' y' → (x = x' ↔ y = y')
  object : ∀ {x y}, R x y → ∃ p p', g.get? x = some p ∧ g'.get? y = some p' ∧ p.Alike R p'

namespace Shape.Alike

variable {s s' : Shape}

theorem kind (h : s.Alike R s') : s.kind = s'.kind := by
  cases h <;> rfl

theorem children (h : s.Alike R s') : List.Forall₂ R s.children s'.children := by
  cases h with
  | node lat lon => exact .nil
  | way h => exact h
  | relation h =>
    exact List.forall₂_map_left_iff.mpr (List.forall₂_map_right_iff.mpr (h.imp fun _ _ hm => hm.2))

end Shape.Alike

namespace Primitive.Alike

variable {p p' : Primitive}

theorem exists_eq (ha : p.Alike R p') :
    ∃ shape referrers, p' = { p with shape := shape, referrers := referrers } :=
  ⟨_, _, ha.own⟩

theorem kind (ha : p.Alike R p') : p.kind = p'.kind := ha.shape.kind

theorem key (ha : p.Alike R p') : p.key = p'.key := by
  have hkind := ha.kind
  obtain ⟨shape, referrers, rfl⟩ := ha.exists_eq
  unfold Primitive.key
  rw [hkind]

theorem isUsable (ha : p.Alike R p') : p.isUsable = p'.isUsable := by
  obtain ⟨shape, referrers, rfl⟩ := ha.exists_eq
  rfl

theorem position? (ha : p.Alike R p') : p.position? = p'.position? := by
  have h := ha.shape
  unfold Primitive.position?
  generalize p.shape = s at h ⊢
  generalize p'.shape = s' at h ⊢
  cases h <;> rfl

theorem children (ha : p.Alike R p') : List.Forall₂ R p.children p'.children := ha.shape.children

theorem members (ha : p.Alike R p') :
    List.Forall₂ (fun m m' => m.role = m'.role ∧ R m.target m'.target) p.members p'.members := by
  have h := ha.shape
  unfold Primitive.members
  generalize p.shape = s at h ⊢
  generalize p'.shape = s' at h ⊢
  cases h with
  | relation h => exact h
  | _ => exact .nil

/-- Two ways with alike nodes, or two objects that are no ways. -/
theorem nodes? (ha : p.Alike R p') :
    (p.nodes? = none ∧ p'.nodes? = none) ∨
      ∃ nodes nodes', p.nodes? = some nodes ∧ p'.nodes? = some nodes' ∧
        List.Forall₂ R nodes nodes' := by
  have h := ha.shape
  unfold Primitive.nodes?
  generalize p.shape = s at h ⊢
  generalize p'.shape = s' at h ⊢
  cases h with
  | way h => exact Or.inr ⟨_, _, rfl, rfl, h⟩
  | _ => exact Or.inl ⟨rfl, rfl⟩

end Primitive.Alike

theorem exists_head_of_forall₂ {nodes nodes' : List Handle} (h : List.Forall₂ R nodes nodes') :
    (nodes.head? = none ∧ nodes'.head? = none) ∨
      ∃ x y, nodes.head? = some x ∧ nodes'.head? = some y ∧ R x y := by
  cases h with
  | nil => exact Or.inl ⟨rfl, rfl⟩
  | cons hr _ => exact Or.inr ⟨_, _, rfl, rfl, hr⟩

/-- A test that some member passes has the same outcome on two lists if each member of one has a
    counterpart in the other. -/
theorem any_eq_of_related {α β : Type} {l : List α} {l' : List β} {f : α → Bool} {f' : β → Bool}
    (h : ∀ x ∈ l, ∃ y ∈ l', f x = f' y) (h' : ∀ y ∈ l', ∃ x ∈ l, f x = f' y) :
    l.any f = l'.any f' := by
  rw [Bool.eq_iff_iff, List.any_eq_true, List.any_eq_true]
  constructor
  · rintro ⟨x, hx, hpass⟩
    obtain ⟨y, hy, e⟩ := h x hx
    exact ⟨y, hy, e ▸ hpass⟩
  · rintro ⟨y, hy, hpass⟩
    obtain ⟨x, hx, e⟩ := h' y hy
    exact ⟨x, hx, e.symm ▸ hpass⟩

theorem all_eq_of_related {α β : Type} {l : List α} {l' : List β} {f : α → Bool} {f' : β → Bool}
    (h : ∀ x ∈ l, ∃ y ∈ l', f x = f' y) (h' : ∀ y ∈ l', ∃ x ∈ l, f x = f' y) :
    l.all f = l'.all f' := by
  rw [List.all_eq_not_any_not, List.all_eq_not_any_not]
  congr 1
  refine any_eq_of_related (fun x hx => ?_) fun y hy => ?_
  · obtain ⟨y, hy, e⟩ := h x hx
    exact ⟨y, hy, congrArg not e⟩
  · obtain ⟨x, hx, e⟩ := h' y hy
    exact ⟨x, hx, congrArg not e⟩

/-! ## 2. What predicates look at -/

namespace Graph.Renamed

variable {g g' : Graph} {x y : Handle} {p p' : Primitive} {visited visited' : List Handle}

/-- The first and the last node are the same in both or in none. -/
theorem closes_iff (hr : g.Renamed R g') {nodes nodes' : List Handle}
    (h : List.Forall₂ R nodes nodes') :
    (nodes.head? == nodes.getLast?) = (nodes'.head? == nodes'.getLast?) := by
  rw [List.getLast?_eq_head?_reverse, List.getLast?_eq_head?_reverse, Bool.eq_iff_iff, beq_iff_eq,
    beq_iff_eq]
  rcases exists_head_of_forall₂ h with ⟨ha, ha'⟩ | ⟨a, a', ha, ha', haa⟩ <;>
    rcases exists_head_of_forall₂ (List.rel_reverse h) with ⟨hz, hz'⟩ | ⟨z, z', hz, hz', hzz⟩ <;>
    rw [ha, ha', hz, hz']
  · simp
  · simp
  · rw [Option.some_inj, Option.some_inj]
    exact hr.oneToOne haa hzz

theorem isClosed (hr : g.Renamed R g') (ha : p.Alike R p') : p.isClosed = p'.isClosed := by
  unfold Primitive.isClosed
  rcases ha.nodes? with ⟨hn, hn'⟩ | ⟨nodes, nodes', hn, hn', hnodes⟩
  · rw [hn, hn']
  · rw [hn, hn']
    simp only
    rw [hr.closes_iff hnodes, hnodes.length_eq]

/-- Alike ways enclose the same area. -/
theorem area? (hr : g.Renamed R g') (ha : p.Alike R p') : g.area? p = g'.area? p' := by
  have hring : ∀ {nodes nodes' : List Handle}, List.Forall₂ R nodes nodes' →
      g.ring? nodes = g'.ring? nodes' := by
    intro nodes nodes' h
    unfold ring?
    induction h with
    | nil => rfl
    | @cons x y _ _ hxy _ ih =>
      obtain ⟨q, q', hq, hq', hqq⟩ := hr.object hxy
      rw [List.mapM_cons, List.mapM_cons, ih, hq, hq', Option.bind_some, Option.bind_some,
        hqq.position?]
  unfold Graph.area? signedArea?
  rcases ha.nodes? with ⟨hn, hn'⟩ | ⟨nodes, nodes', hn, hn', hnodes⟩
  · rw [hn, hn']
  · rw [hn, hn']
    simp only
    rw [hr.isClosed ha, hring hnodes]

theorem countHolds (hr : g.Renamed R g') (ha : p.Alike R p') (d : Dimension) (range : Range) :
    g.countHolds d range p = g'.countHolds d range p' := by
  have hmeasure : g.measure d p = g'.measure d p' := by
    cases d with
    | tags =>
      obtain ⟨shape, referrers, rfl⟩ := ha.exists_eq
      rfl
    | timestamp =>
      obtain ⟨shape, referrers, rfl⟩ := ha.exists_eq
      rfl
    | nodes =>
      unfold Graph.measure
      rcases ha.nodes? with ⟨hn, hn'⟩ | ⟨nodes, nodes', hn, hn', hnodes⟩
      · rw [hn, hn']
      · simp only
        rw [hn, hn', Option.map_some, Option.map_some, hnodes.length_eq]
    | area =>
      unfold Graph.measure
      simp only
      rw [hr.area? ha]
  unfold Graph.countHolds
  rw [hmeasure]

theorem hasStatus (hr : g.Renamed R g') (ha : p.Alike R p') (selection : Option (List Key))
    (s : Status) : Graph.hasStatus selection p s = Graph.hasStatus selection p' s := by
  have hkey := ha.key
  have hclosed := hr.isClosed ha
  obtain ⟨shape, referrers, rfl⟩ := ha.exists_eq
  cases s with
  | selected =>
    unfold Graph.hasStatus
    simp only
    rw [hkey]
  | closed => exact hclosed
  | _ => rfl

/-- Roles are looked for in the relations that hold an object, in any order. -/
theorem hasRole (hr : g.Renamed R g') (hxy : R x y) (ha : p.Alike R p') (name : String) :
    g.hasRole x p name = g'.hasRole y p' name := by
  have hmembers : ∀ {q q' : Primitive}, q.Alike R q' →
      (q.isUsable && q.members.any fun m => m.target == x && roleIs m.role name) =
        (q'.isUsable && q'.members.any fun m => m.target == y && roleIs m.role name) := by
    intro q q' hq
    rw [hq.isUsable]
    congr 1
    have hmember : ∀ {m m' : Member}, m.role = m'.role ∧ R m.target m'.target →
        (m.target == x && roleIs m.role name) = (m'.target == y && roleIs m'.role name) := by
      rintro m m' ⟨hrole, htarget⟩
      rw [hrole, Bool.eq_iff_iff.mpr (beq_iff_eq.trans
        ((hr.oneToOne htarget hxy).trans beq_iff_eq.symm))]
    refine any_eq_of_related (fun m hm => ?_) fun m' hm' => ?_
    · obtain ⟨m', hm', h⟩ := Document.exists_of_mem_left hq.members hm
      exact ⟨m', hm', hmember h⟩
    · obtain ⟨m, hm, h⟩ := Document.exists_of_mem_right hq.members hm'
      exact ⟨m, hm, hmember h⟩
  unfold Graph.hasRole resolve
  refine any_eq_of_related (fun q hq => ?_) fun q' hq' => ?_
  · obtain ⟨r, hr₁, hq⟩ := List.mem_filterMap.mp hq
    obtain ⟨r', hr', hrr⟩ := ha.referrers r hr₁
    obtain ⟨q₁, q', hq₁, hq', hqq⟩ := hr.object hrr
    rw [hq] at hq₁
    cases hq₁
    exact ⟨q', List.mem_filterMap.mpr ⟨r', hr', hq'⟩, hmembers hqq⟩
  · obtain ⟨r', hr', hq'⟩ := List.mem_filterMap.mp hq'
    obtain ⟨r, hr₁, hrr⟩ := ha.referrers' r' hr'
    obtain ⟨q, q₁, hq, hq₁, hqq⟩ := hr.object hrr
    rw [hq'] at hq₁
    cases hq₁
    exact ⟨q, List.mem_filterMap.mpr ⟨r, hr₁, hq⟩, hmembers hqq⟩

/-! ## 3. Areas -/

/-- The same relations were passed in both graphs. -/
def Passed (R : Handle → Handle → Prop) (visited visited' : List Handle) : Prop :=
  ∀ c c', R c c' → (c ∈ visited ↔ c' ∈ visited')

theorem passed_cons (hr : g.Renamed R g') (hxy : R x y) (hv : Passed R visited visited') :
    Passed R (x :: visited) (y :: visited') := by
  intro c c' hc
  rw [List.mem_cons, List.mem_cons, hr.oneToOne hc hxy, hv c c' hc]

/-- **The search goes on to the same parts**, though a relation may list them in another order. -/
theorem areaParts (hr : g.Renamed R g') (hxy : R x y) (ha : p.Alike R p')
    (hk : p.kind ≠ .node) (hv : Passed R visited visited') :
    Passed R (Graph.areaParts visited x p).2 (Graph.areaParts visited' y p').2 ∧
      (∀ c ∈ (Graph.areaParts visited x p).1,
        ∃ c' ∈ (Graph.areaParts visited' y p').1, R c c') ∧
      ∀ c' ∈ (Graph.areaParts visited' y p').1, ∃ c ∈ (Graph.areaParts visited x p).1, R c c' := by
  cases hkind : p.kind with
  | node => exact absurd hkind hk
  | way =>
    rw [areaParts_way hkind, areaParts_way (ha.kind ▸ hkind)]
    exact ⟨hv, fun c hc => Document.exists_of_mem_left ha.children hc,
      fun c' hc' => Document.exists_of_mem_right ha.children hc'⟩
  | relation =>
    have hkind' : p'.kind = .relation := ha.kind ▸ hkind
    have hpassed := hr.passed_cons hxy hv
    have hmem := fun c => mem_areaParts_relation visited x c hkind
    have hmem' := fun c => mem_areaParts_relation visited' y c hkind'
    rw [(hmem 0).1, (hmem' 0).1]
    refine ⟨hpassed, fun c hc => ?_, fun c' hc' => ?_⟩
    · obtain ⟨hchild, hnew⟩ := (hmem c).2.mp hc
      obtain ⟨c', hchild', hcc⟩ := Document.exists_of_mem_left ha.children hchild
      exact ⟨c', (hmem' c').2.mpr ⟨hchild', fun hm => hnew ((hpassed c c' hcc).mpr hm)⟩, hcc⟩
    · obtain ⟨hchild', hnew⟩ := (hmem' c').2.mp hc'
      obtain ⟨c, hchild, hcc⟩ := Document.exists_of_mem_right ha.children hchild'
      exact ⟨c, (hmem c).2.mpr ⟨hchild, fun hm => hnew ((hpassed c c' hcc).mp hm)⟩, hcc⟩

theorem inBounds (hr : g.Renamed R g') (b : Bounds) (q : Quantifier) (k : Nat) (hxy : R x y)
    (hv : Passed R visited visited') :
    g.inBounds b q k visited x = g'.inBounds b q k visited' y := by
  induction k generalizing x y visited visited' with
  | zero => rfl
  | succ k ih =>
    obtain ⟨p, p', hp, hp', ha⟩ := hr.object hxy
    cases hu : p.isUsable with
    | false =>
      have hnot : ∀ {g : Graph} {h : Handle} {p : Primitive}, g.get? h = some p →
          p.isUsable = false → ¬ g.Usable h := by
        rintro g h p hp hu ⟨p₁, hp₁, hu₁⟩
        rw [hp] at hp₁
        cases hp₁
        rw [hu] at hu₁
        cases hu₁
      rw [inBounds_not_usable (hnot hp hu), inBounds_not_usable (hnot hp' (ha.isUsable ▸ hu))]
    | true =>
      have hu' : p'.isUsable = true := ha.isUsable ▸ hu
      by_cases hk : p.kind = .node
      · rw [Bool.eq_iff_iff, inBounds_node hp hu hk, inBounds_node hp' hu' (ha.kind ▸ hk),
          nodeIn_iff hp, nodeIn_iff hp', ha.position?]
      · obtain ⟨hpassed, hparts, hparts'⟩ := hr.areaParts hxy ha hk hv
        rw [inBounds_parts hp hu hk, inBounds_parts hp' hu' (ha.kind ▸ hk)]
        have hleft : ∀ c ∈ (Graph.areaParts visited x p).1,
            ∃ c' ∈ (Graph.areaParts visited' y p').1,
              g.inBounds b q k (Graph.areaParts visited x p).2 c =
                g'.inBounds b q k (Graph.areaParts visited' y p').2 c' := by
          intro c hc
          obtain ⟨c', hc', hcc⟩ := hparts c hc
          exact ⟨c', hc', ih hcc hpassed⟩
        have hright : ∀ c' ∈ (Graph.areaParts visited' y p').1,
            ∃ c ∈ (Graph.areaParts visited x p).1,
              g.inBounds b q k (Graph.areaParts visited x p).2 c =
                g'.inBounds b q k (Graph.areaParts visited' y p').2 c' := by
          intro c' hc'
          obtain ⟨c, hc, hcc⟩ := hparts' c' hc'
          exact ⟨c, hc, ih hcc hpassed⟩
        cases q with
        | all => exact all_eq_of_related hleft hright
        | any => exact any_eq_of_related hleft hright

theorem inArea (hr : g.Renamed R g') (t : AreaTest) (hxy : R x y) :
    g.inArea t x = g'.inArea t y := by
  unfold Graph.inArea
  cases t.bounds with
  | none => rfl
  | some b =>
    simp only
    rw [hr.size]
    exact hr.inBounds b t.quantifier _ hxy fun _ _ _ => by simp

/-! ## 4. Predicates -/

/-- Tests of two lists of places agree if each place of one list has a counterpart in the other. -/
theorem anyOf_agree (hr : g.Renamed R g') {selection : Option (List Key)} {q : Predicate}
    (ih : ∀ {x y : Handle} {p p' : Primitive}, R x y → g.get? x = some p → g'.get? y = some p' →
      p.Alike R p' → (g.holdsAt selection q x p).Agree (g'.holdsAt selection q y p'))
    {l l' : List Handle} (hl : ∀ c ∈ l, ∃ c' ∈ l', R c c') (hl' : ∀ c' ∈ l', ∃ c ∈ l, R c c') :
    (Outcome.anyOf (g.holds selection q) l).Agree (Outcome.anyOf (g'.holds selection q) l') := by
  have hagree : ∀ {c c' : Handle}, R c c' →
      (g.holds selection q c).Agree (g'.holds selection q c') := by
    intro c c' hc
    obtain ⟨p, p', hp, hp', ha⟩ := hr.object hc
    rw [holds_of_get? hp, holds_of_get? hp']
    exact ih hc hp hp' ha
  refine Outcome.Agree.anyOf (fun c hc => ?_) fun c' hc' => ?_
  · obtain ⟨c', hc', hcc⟩ := hl c hc
    exact ⟨c', hc', hagree hcc⟩
  · obtain ⟨c, hc, hcc⟩ := hl' c' hc'
    exact ⟨c, hc, hagree hcc⟩

theorem holdsAt_agree (hr : g.Renamed R g') (selection : Option (List Key)) (q : Predicate)
    (hxy : R x y) (hp : g.get? x = some p) (hp' : g'.get? y = some p') (ha : p.Alike R p') :
    (g.holdsAt selection q x p).Agree (g'.holdsAt selection q y p') := by
  induction q generalizing x y p p' with
  | not q ih =>
    rw [holdsAt_not, holdsAt_not]
    exact (ih hxy hp hp' ha).negate
  | both l r ihl ihr =>
    rw [holdsAt_both, holdsAt_both]
    exact (ihl hxy hp hp' ha).andThen (ihr hxy hp hp' ha)
  | either l r ihl ihr =>
    rw [holdsAt_either, holdsAt_either]
    exact (ihl hxy hp hp' ha).orElse (ihr hxy hp hp' ha)
  | hasChild q ih =>
    rw [holdsAt_hasChild, holdsAt_hasChild]
    exact hr.anyOf_agree ih (fun _ hc => Document.exists_of_mem_left ha.children hc)
      fun _ hc' => Document.exists_of_mem_right ha.children hc'
  | hasParent q ih =>
    rw [holdsAt_hasParent, holdsAt_hasParent]
    exact hr.anyOf_agree ih ha.referrers ha.referrers'
  | role name =>
    rw [holdsAt, holdsAt, hr.hasRole hxy ha]
    exact .of_eq rfl
  | count d range =>
    rw [holdsAt, holdsAt, hr.countHolds ha]
    exact .of_eq rfl
  | status s =>
    rw [holdsAt, holdsAt, hr.hasStatus ha]
    exact .of_eq rfl
  | area t =>
    rw [holdsAt, holdsAt, hr.inArea t hxy]
    exact .of_eq rfl
  | kind k =>
    rw [holdsAt, holdsAt, ha.kind]
    exact .of_eq rfl
  | _ =>
    -- the other tests look at nothing but the object itself
    obtain ⟨shape, referrers, rfl⟩ := ha.exists_eq
    rw [holdsAt, holdsAt]
    exact .of_eq rfl

/-- **No predicate tells the same objects apart.** -/
theorem holds_agree (hr : g.Renamed R g') (selection : Option (List Key)) (q : Predicate)
    (hxy : R x y) : (g.holds selection q x).Agree (g'.holds selection q y) := by
  obtain ⟨p, p', hp, hp', ha⟩ := hr.object hxy
  rw [holds_of_get? hp, holds_of_get? hp']
  exact hr.holdsAt_agree selection q hxy hp hp' ha

end Graph.Renamed

end MapQuery
