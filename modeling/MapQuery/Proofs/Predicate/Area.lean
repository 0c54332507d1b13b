import MapQuery.Predicate.Match
import MapQuery.Proofs.Map.Reach

/-!
# Area tests ask about what can be reached

The search for points in a box enters a relation once on each path, so that it ends however the
relations hold each other. It finds no less for that: a path to an object can be cut short until it
visits no relation twice.

* `Graph.Enters` -- the calls of the search, from a place and the relations passed to the next one;
* `Graph.measure` -- how deep the search can go from there, at most;
* `acc_enters` -- no chain of calls goes on for ever;
* `Searches` -- what the searches for some and for all points have in common, with the two lemmas
  `Searches.sound` and `Searches.complete`;
* `area_iff_reach` -- the outcome of an area test, by what can be reached.
-/

namespace MapQuery

open Relation

namespace Graph

variable {g : Graph} {b : Bounds} {c h n : Handle} {visited : List Handle}

/-! ## 1. The calls of the search -/

/-- The search goes on from a place to a part of the object there, with the relations passed. -/
def Enters (g : Graph) (next here : List Handle × Handle) : Prop :=
  ∃ p, g.get? here.2 = some p ∧ p.isUsable = true ∧ p.kind ≠ .node ∧
    next.2 ∈ (areaParts here.1 here.2 p).1 ∧ next.1 = (areaParts here.1 here.2 p).2

/-- The members of a relation are its children. -/
theorem mem_memberHandles {p : Primitive} (hk : p.kind = .relation) :
    c ∈ memberHandles p ↔ c ∈ p.children := by
  unfold Primitive.kind at hk
  unfold memberHandles Primitive.members Primitive.children
  cases hs : p.shape with
  | node lat lon =>
    rw [hs] at hk
    cases hk
  | way nodes =>
    rw [hs] at hk
    cases hk
  | relation members => simp [Shape.children]

theorem areaParts_way {p : Primitive} (hk : p.kind = .way) :
    areaParts visited h p = (p.children, visited) := by
  unfold areaParts
  rw [hk]

theorem mem_areaParts_relation (visited : List Handle) (h c : Handle) {p : Primitive}
    (hk : p.kind = .relation) : (areaParts visited h p).2 = h :: visited ∧
      (c ∈ (areaParts visited h p).1 ↔ c ∈ p.children ∧ c ∉ h :: visited) := by
  unfold areaParts
  rw [hk]
  refine ⟨rfl, ?_⟩
  simp only
  rw [List.mem_filter, mem_memberHandles hk]
  simp

/-- The search leads from usable objects to what they refer to. -/
theorem passes_of_enters {next : List Handle × Handle} (he : g.Enters next (visited, h)) :
    g.Passes h next.2 := by
  obtain ⟨p, hp, hu, hk, hc, _⟩ := he
  refine ⟨⟨p, hp, hu⟩, p, hp, ?_⟩
  cases hkind : p.kind with
  | node => exact absurd hkind hk
  | way =>
    rw [areaParts_way hkind] at hc
    exact hc
  | relation => exact ((mem_areaParts_relation visited h _ hkind).2.mp hc).1

/-! ## 2. The search ends -/

/-- The number of places that were not passed. -/
def unpassed (g : Graph) (visited : List Handle) : Nat :=
  ((List.range g.objects.size).filter fun h => !visited.contains h).length

theorem unpassed_le (g : Graph) (visited : List Handle) : g.unpassed visited ≤ g.objects.size := by
  have hle := List.length_filter_le (fun h => !visited.contains h) (List.range g.objects.size)
  rwa [List.length_range] at hle

theorem unpassed_cons_lt (hh : h < g.objects.size) (hv : h ∉ visited) :
    g.unpassed (h :: visited) < g.unpassed visited := by
  have e : (List.range g.objects.size).filter (fun k => !(h :: visited).contains k) =
      ((List.range g.objects.size).filter fun k => !visited.contains k).filter (· != h) := by
    rw [List.filter_filter]
    refine List.filter_congr fun k _ => ?_
    rw [List.contains_cons, Bool.not_or]
    rfl
  unfold unpassed
  rw [e, List.length_filter_lt_length_iff_exists]
  exact ⟨h, List.mem_filter.mpr ⟨List.mem_range.mpr hh, by simpa using hv⟩, by simp⟩

/-- How many calls deep the search can go from a place, the first call included. -/
def depth (g : Graph) (visited : List Handle) (h : Handle) : Nat :=
  match (g.get? h).map Primitive.kind with
  | some .relation => g.unpassed visited + 2
  | some .way => 2
  | _ => 1

theorem depth_pos : 0 < g.depth visited h := by
  unfold depth
  split <;> omega

theorem depth_le (g : Graph) (visited : List Handle) (h : Handle) :
    g.depth visited h ≤ g.unpassed visited + 2 := by
  unfold depth
  split <;> omega

/-- No relation is entered that was passed before. -/
def Fresh (g : Graph) (visited : List Handle) (h : Handle) : Prop :=
  ∀ p, g.get? h = some p → p.kind = .relation → h ∉ visited

/-- **Each call of the search has less depth before it**, and enters no relation again. -/
theorem depth_of_enters (hg : g.WaysHoldNodes) (hf : g.Fresh visited h)
    {next : List Handle × Handle} (he : g.Enters next (visited, h)) :
    g.depth next.1 next.2 < g.depth visited h ∧ g.Fresh next.1 next.2 := by
  obtain ⟨after, c⟩ := next
  obtain ⟨p, hp, _, hk, hc, hafter⟩ := he
  simp only at hp hc hafter ⊢
  cases hkind : p.kind with
  | node => exact absurd hkind hk
  | way =>
    rw [areaParts_way hkind] at hc
    obtain ⟨q, hq, hqk⟩ := hg h p hp hkind c hc
    constructor
    · unfold depth
      rw [hp, hq, Option.map_some, Option.map_some, hkind, hqk]
      exact Nat.lt_succ_self 1
    · intro q' hq' hrel
      rw [hq] at hq'
      cases hq'
      rw [hqk] at hrel
      cases hrel
  | relation =>
    obtain ⟨hpassed, hparts⟩ := mem_areaParts_relation visited h c hkind
    rw [hpassed] at hafter
    subst hafter
    have hsize : h < g.objects.size := by
      unfold get? at hp
      exact (Array.getElem?_eq_some_iff.mp hp).1
    have hless := unpassed_cons_lt hsize (hf p hp hkind)
    have hdepth : g.depth visited h = g.unpassed visited + 2 := by
      unfold depth
      rw [hp, Option.map_some, hkind]
    refine ⟨?_, fun _ _ _ => (hparts.mp hc).2⟩
    have hle := depth_le g (h :: visited) c
    omega

/-- **No chain of calls goes on for ever.** -/
theorem acc_enters (hg : g.WaysHoldNodes) : ∀ (k : Nat) {visited : List Handle} {h : Handle},
    g.depth visited h ≤ k → g.Fresh visited h → Acc g.Enters (visited, h)
  | 0, _, _, hk, _ => absurd depth_pos (Nat.not_lt.mpr hk)
  | k + 1, _, _, hk, hf => by
    refine ⟨_, fun next he => ?_⟩
    obtain ⟨hless, hfresh⟩ := depth_of_enters hg hf he
    exact acc_enters hg k (by omega) hfresh

/-- Nothing was passed where the search starts. -/
theorem fresh_nil : g.Fresh [] h := fun _ _ _ => List.not_mem_nil

theorem depth_nil_le : g.depth [] h ≤ g.objects.size + 2 :=
  Nat.le_trans (depth_le g [] h) (Nat.add_le_add_right (unpassed_le g []) 2)

/-! ## 3. What a search finds -/

/-- A search for targets, by the depth it may have. With one more it finds the place where it
    stands, if that is a target, and what it finds from the next calls. -/
def Searches (g : Graph) (target : Handle → Prop) (find : Nat → List Handle → Handle → Prop) :
    Prop :=
  ∀ k visited h, find (k + 1) visited h ↔
    target h ∨ ∃ next, g.Enters next (visited, h) ∧ find k next.1 next.2

variable {target : Handle → Prop} {find : Nat → List Handle → Handle → Prop}

/-- **What a search finds can be reached**, if it has depth enough. -/
theorem Searches.sound (hs : g.Searches target find) (hg : g.WaysHoldNodes) :
    ∀ (k : Nat) {visited : List Handle} {h : Handle}, g.depth visited h ≤ k →
      g.Fresh visited h → find k visited h → ∃ n, ReflTransGen g.Passes h n ∧ target n
  | 0, _, _, hk, _, _ => absurd depth_pos (Nat.not_lt.mpr hk)
  | k + 1, visited, h, hk, hf, hfind => by
    rcases (hs k visited h).mp hfind with ht | ⟨next, he, hnext⟩
    · exact ⟨h, .refl, ht⟩
    · obtain ⟨hless, hfresh⟩ := depth_of_enters hg hf he
      obtain ⟨n, hpath, hn⟩ := Searches.sound hs hg k (by omega) hfresh hnext
      exact ⟨n, .head (passes_of_enters he) hpath, hn⟩

/-- From a way the search goes on to each of its nodes, and from a relation to each member that
    was not passed. -/
theorem enters_of_passes (hp : g.Passes h c) (hc : c ∉ h :: visited) :
    ∃ after, g.Enters (after, c) (visited, h) ∧ (after = visited ∨ after = h :: visited) := by
  obtain ⟨⟨p, hp, hu⟩, q, hq, hcq⟩ := hp
  rw [hp] at hq
  cases hq
  cases hkind : p.kind with
  | node => exact absurd ⟨p, hp, hcq⟩ (not_refers_of_isNode ⟨p, hp, hkind⟩)
  | way =>
    refine ⟨visited, ⟨p, hp, hu, by rw [hkind]; decide, ?_, ?_⟩, Or.inl rfl⟩
    · simp only
      rw [areaParts_way hkind]
      exact hcq
    · rw [areaParts_way hkind]
  | relation =>
    obtain ⟨hpassed, hparts⟩ := mem_areaParts_relation visited h c hkind
    exact ⟨h :: visited, ⟨p, hp, hu, by rw [hkind]; decide, hparts.mpr ⟨hcq, hc⟩, hpassed.symm⟩,
      Or.inr rfl⟩

/-- **A search finds every target that can be reached past the relations it has passed**: after the
    last exit from a place, the path never needs that place again. -/
theorem Searches.complete (hs : g.Searches target find) (hg : g.WaysHoldNodes) :
    ∀ (k : Nat) {visited : List Handle} {h n : Handle}, g.depth visited h ≤ k →
      g.Fresh visited h → ReflTransGen (fun a c => g.Passes a c ∧ c ∉ visited) h n → target n →
        find k visited h
  | 0, _, _, _, hk, _, _, _ => absurd depth_pos (Nat.not_lt.mpr hk)
  | k + 1, visited, h, n, hk, hf, hpath, hn => by
    rw [hs]
    rcases last_exit hpath with rfl | ⟨c, hc, hcv, hrest⟩
    · exact Or.inl hn
    · obtain ⟨after, he, hafter⟩ := enters_of_passes hc hcv
      obtain ⟨hless, hfresh⟩ := depth_of_enters hg hf he
      have hrest' : ReflTransGen (fun a c => g.Passes a c ∧ c ∉ after) c n := by
        rcases hafter with rfl | rfl
        · have hle : (fun a c => g.Passes a c ∧ c ∉ h :: after) ≤
              fun a c => g.Passes a c ∧ c ∉ after :=
            fun _ _ hstep => ⟨hstep.1, fun hm => hstep.2 (List.mem_cons_of_mem h hm)⟩
          exact ReflTransGen.mono hle c n hrest
        · exact hrest
      exact Or.inr ⟨(after, c), he, Searches.complete hs hg k (by omega) hfresh hrest' hn⟩

/-- **A search from the start finds just what can be reached**, with any depth that suffices for
    all places. -/
theorem Searches.iff_reach (hs : g.Searches target find) (hg : g.WaysHoldNodes) {k : Nat}
    (hk : g.objects.size + 2 ≤ k) (h : Handle) :
    find k [] h ↔ ∃ n, ReflTransGen g.Passes h n ∧ target n := by
  have hdepth : g.depth [] h ≤ k := Nat.le_trans depth_nil_le hk
  refine ⟨hs.sound hg k hdepth fresh_nil, ?_⟩
  rintro ⟨n, hpath, hn⟩
  have hle : g.Passes ≤ fun a c => g.Passes a c ∧ c ∉ [] :=
    fun _ _ hstep => ⟨hstep, List.not_mem_nil⟩
  exact hs.complete hg k hdepth fresh_nil (ReflTransGen.mono hle h n hpath) hn

/-! ## 4. Area tests -/

/-- At this place stands a node with both coordinates, and they lie in the box. -/
def NodeIn (g : Graph) (b : Bounds) (h : Handle) : Prop :=
  ∃ p lat lon, g.get? h = some p ∧ p.position? = some (lat, lon) ∧ b.contains lat lon = true

theorem isNode_of_nodeIn (hn : g.NodeIn b h) : g.IsNode h := by
  obtain ⟨p, lat, lon, hp, hpos, _⟩ := hn
  refine ⟨p, hp, ?_⟩
  unfold Primitive.position? at hpos
  unfold Primitive.kind
  split at hpos
  · next e => rw [e]; rfl
  · cases hpos

/-- Whether the coordinates of a node lie in the box. -/
theorem nodeIn_iff {p : Primitive} (hp : g.get? h = some p) :
    g.NodeIn b h ↔ (p.position?.any fun (lat, lon) => b.contains lat lon) = true := by
  rw [Option.any_eq_true]
  constructor
  · rintro ⟨q, lat, lon, hq, hpos, hin⟩
    rw [hp] at hq
    cases hq
    exact ⟨(lat, lon), hpos, hin⟩
  · rintro ⟨⟨lat, lon⟩, hpos, hin⟩
    exact ⟨p, lat, lon, hp, hpos, hin⟩

section Step

variable {q : Quantifier} {k : Nat} {p : Primitive}

theorem inBounds_not_usable (hu : ¬ g.Usable h) : g.inBounds b q (k + 1) visited h = false := by
  unfold inBounds
  cases hp : g.get? h with
  | none => rfl
  | some p =>
    have hp' : p.isUsable = false := Bool.eq_false_iff.mpr fun e => hu ⟨p, hp, e⟩
    simp only
    rw [hp']
    rfl

theorem inBounds_node (hp : g.get? h = some p) (hu : p.isUsable = true) (hk : p.kind = .node) :
    g.inBounds b q (k + 1) visited h = true ↔ g.NodeIn b h := by
  rw [nodeIn_iff hp]
  unfold inBounds
  rw [hp]
  simp only
  rw [hu, hk]
  exact Iff.rfl

/-- Away from nodes the search goes on to the parts. -/
theorem inBounds_parts (hp : g.get? h = some p) (hu : p.isUsable = true) (hk : p.kind ≠ .node) :
    g.inBounds b q (k + 1) visited h = match q with
      | .all => (areaParts visited h p).1.all (g.inBounds b q k (areaParts visited h p).2)
      | .any => (areaParts visited h p).1.any (g.inBounds b q k (areaParts visited h p).2) := by
  conv => lhs; unfold inBounds
  rw [hp]
  simp only
  rw [hu]
  cases hkind : p.kind with
  | node => exact absurd hkind hk
  | _ => rfl

/-- The calls at an object away from nodes are those at its parts. -/
theorem exists_enters_iff (hp : g.get? h = some p) (hu : p.isUsable = true) (hk : p.kind ≠ .node)
    {P : List Handle → Handle → Prop} :
    (∃ next, g.Enters next (visited, h) ∧ P next.1 next.2) ↔
      ∃ c ∈ (areaParts visited h p).1, P (areaParts visited h p).2 c := by
  constructor
  · rintro ⟨⟨after, c⟩, ⟨p', hp', _, _, hc, hafter⟩, hP⟩
    simp only at hp' hc hafter hP
    rw [hp] at hp'
    cases hp'
    rw [hafter] at hP
    exact ⟨c, hc, hP⟩
  · rintro ⟨c, hc, hP⟩
    exact ⟨((areaParts visited h p).2, c), ⟨p, hp, hu, hk, hc, rfl⟩, hP⟩

/-- The search ends at nodes, and at objects that are not usable. -/
theorem not_enters (hend : ¬ g.Usable h ∨ g.IsNode h) (next : List Handle × Handle) :
    ¬ g.Enters next (visited, h) := by
  intro he
  have hpass := passes_of_enters he
  rcases hend with hu | hn
  · exact hu hpass.1
  · exact not_refers_of_isNode hn hpass.2

end Step

/-- The search for some point searches for usable nodes in the box. -/
theorem searches_any (g : Graph) (b : Bounds) :
    g.Searches (fun h => g.Usable h ∧ g.NodeIn b h)
      fun k visited h => g.inBounds b .any k visited h = true := by
  intro k visited h
  dsimp only
  by_cases hu : g.Usable h
  · obtain ⟨p, hp, hpu⟩ := hu
    by_cases hk : p.kind = .node
    · rw [inBounds_node hp hpu hk]
      constructor
      · exact fun hn => Or.inl ⟨⟨p, hp, hpu⟩, hn⟩
      · rintro (⟨_, hn⟩ | ⟨next, he, _⟩)
        · exact hn
        · exact absurd he (not_enters (Or.inr ⟨p, hp, hk⟩) next)
    · have hnode : ¬ g.NodeIn b h := fun hn => hk ((isNode_iff hp).mp (isNode_of_nodeIn hn))
      rw [inBounds_parts hp hpu hk,
        exists_enters_iff hp hpu hk (P := fun v c => g.inBounds b .any k v c = true)]
      simp only
      rw [List.any_eq_true]
      exact ⟨Or.inr, fun h' => h'.resolve_left fun ht => hnode ht.2⟩
  · rw [inBounds_not_usable hu]
    constructor
    · exact fun e => nomatch e
    · rintro (⟨hu', _⟩ | ⟨next, he, _⟩)
      · exact absurd hu' hu
      · exact absurd he (not_enters (Or.inl hu) next)

/-- The search that not all points lie in the box searches for objects that are not usable, and
    nodes outside of it. -/
theorem searches_all (g : Graph) (b : Bounds) :
    g.Searches (fun h => ¬ (g.Usable h ∧ (g.IsNode h → g.NodeIn b h)))
      fun k visited h => g.inBounds b .all k visited h = false := by
  intro k visited h
  dsimp only
  by_cases hu : g.Usable h
  · obtain ⟨p, hp, hpu⟩ := hu
    by_cases hk : p.kind = .node
    · have hn : g.IsNode h := ⟨p, hp, hk⟩
      rw [← Bool.not_eq_true, inBounds_node hp hpu hk]
      constructor
      · exact fun hout => Or.inl fun ht => hout (ht.2 hn)
      · rintro (ht | ⟨next, he, _⟩)
        · exact fun hin => ht ⟨⟨p, hp, hpu⟩, fun _ => hin⟩
        · exact absurd he (not_enters (Or.inr hn) next)
    · have hnode : ¬ g.IsNode h := fun hn => hk ((isNode_iff hp).mp hn)
      rw [inBounds_parts hp hpu hk,
        exists_enters_iff hp hpu hk (P := fun v c => g.inBounds b .all k v c = false)]
      simp only
      rw [List.all_eq_false]
      simp only [Bool.not_eq_true]
      exact ⟨Or.inr, fun h' => h'.resolve_left fun ht =>
        ht ⟨⟨p, hp, hpu⟩, fun hn => absurd hn hnode⟩⟩
  · rw [inBounds_not_usable hu]
    exact ⟨fun _ => Or.inl fun ht => hu ht.1, fun _ => rfl⟩

/-- **A search with depth enough for all places has the same outcome with more.** -/
theorem inBounds_eq (hg : g.WaysHoldNodes) (b : Bounds) (q : Quantifier) {k : Nat}
    (hk : g.objects.size + 2 ≤ k) (h : Handle) :
    g.inBounds b q k [] h = g.inBounds b q (g.objects.size + 2) [] h := by
  cases q with
  | any =>
    rw [Bool.eq_iff_iff, (searches_any g b).iff_reach hg hk h,
      (searches_any g b).iff_reach hg (Nat.le_refl _) h]
  | all =>
    rw [← Bool.not_inj_iff, Bool.eq_iff_iff, Bool.not_eq_true', Bool.not_eq_true',
      (searches_all g b).iff_reach hg hk h, (searches_all g b).iff_reach hg (Nat.le_refl _) h]

/-- An area test has an outcome on all objects. -/
theorem holds_area (g : Graph) (selection : Option (List Key)) (t : AreaTest) (h : Handle) :
    g.holds selection (.area t) h = .ok (g.inArea t h) := by
  unfold holds
  cases hp : g.get? h with
  | some p =>
    simp only
    rw [holdsAt]
  | none =>
    have hu : ¬ g.Usable h := by
      rintro ⟨p, hp', _⟩
      rw [hp] at hp'
      cases hp'
    unfold inArea
    cases t.bounds with
    | none => rfl
    | some b =>
      simp only
      rw [inBounds_not_usable hu]

/-- **Area tests ask about what can be reached, whatever relations hold each other.** The search
    ends, and its outcome depends on no bound. Some point lies in the box when a node in the box
    can be reached past usable objects alone; all do when all that can be reached is usable, and
    the nodes among it lie in the box. Without a box nothing passes. -/
theorem area_iff_reach (g : Graph) (hg : g.WaysHoldNodes) (selection : Option (List Key))
    (source : AreaSource) (h : Handle) :
    Acc g.Enters ([], h) ∧
    (∀ b q k, g.objects.size + 2 ≤ k →
      g.holds selection (.area ⟨source, q, some b⟩) h = .ok (g.inBounds b q k [] h)) ∧
    (∀ b, g.holds selection (.area ⟨source, .any, some b⟩) h = .ok true ↔
      ∃ n, g.Usable h ∧ ReflTransGen g.PassesUsable h n ∧ g.NodeIn b n) ∧
    (∀ b, g.holds selection (.area ⟨source, .all, some b⟩) h = .ok true ↔
      ∀ n, ReflTransGen g.Refers h n → g.Usable n ∧ (g.IsNode n → g.NodeIn b n)) ∧
    ∀ q, g.holds selection (.area ⟨source, q, none⟩) h = .ok false := by
  refine ⟨acc_enters hg _ (Nat.le_refl _) fresh_nil, fun b q k hk => ?_, fun b => ?_, fun b => ?_,
    fun q => ?_⟩
  · rw [holds_area, inBounds_eq hg b q hk]
    rfl
  · rw [holds_area, Except.ok.injEq]
    show g.inBounds b .any (g.objects.size + 2) [] h = true ↔ _
    rw [(searches_any g b).iff_reach hg (Nat.le_refl _) h]
    refine exists_congr fun n => ?_
    rw [← and_assoc, ← and_assoc, passes_and_usable_iff]
  · rw [holds_area, Except.ok.injEq, forall_refers_iff_passes]
    show g.inBounds b .all (g.objects.size + 2) [] h = true ↔ _
    rw [← Bool.not_eq_false, (searches_all g b).iff_reach hg (Nat.le_refl _) h]
    constructor
    · exact fun hnone n hpath => Classical.byContradiction fun hn => hnone ⟨n, hpath, hn⟩
    · exact fun hall ⟨n, hpath, hn⟩ => hn (hall n hpath)
  · rw [holds_area]
    rfl

/-- Two relations that hold each other, one of them itself as well, and the other one a way with a
    node: from the first one the node is reached, and nothing else that has a place. -/
theorem area_iff_reach_mutual :
    let g : Graph := ⟨#[{ id := 1, shape := .relation [⟨.null, 0⟩, ⟨.null, 1⟩] },
      { id := 2, shape := .relation [⟨.null, 0⟩, ⟨.null, 2⟩] }, { id := 3, shape := .way [3] },
      { id := 4, shape := .node (some 0.5) (some 0.5) }]⟩
    let around : Bounds := ⟨0, 0, 1, 1⟩
    let beside : Bounds := ⟨2, 2, 3, 3⟩
    g.WaysHoldNodes ∧ g.holds none (.area ⟨.view, .any, some around⟩) 0 = .ok true ∧
      g.holds none (.area ⟨.view, .all, some around⟩) 0 = .ok true ∧
      g.holds none (.area ⟨.view, .any, some beside⟩) 0 ≠ .ok true := by
  intro g around beside
  have hnode : g.IsNode 3 := ⟨_, rfl, rfl⟩
  have hg : g.WaysHoldNodes
    | 0, _, hp, hk => by
      cases hp
      cases hk
    | 1, _, hp, hk => by
      cases hp
      cases hk
    | 2, _, hp, _ => by
      cases hp
      exact fun c hc => List.mem_singleton.mp hc ▸ hnode
    | 3, _, hp, hk => by
      cases hp
      cases hk
    | _ + 4, _, hp, _ => nomatch hp
  have hin : g.NodeIn around 3 := ⟨_, _, _, rfl, rfl, by decide +kernel⟩
  have hfits : ∀ n < 4, g.Usable n ∧ (g.IsNode n → g.NodeIn around n)
    | 0, _ => ⟨⟨_, rfl, rfl⟩, fun ⟨_, hp, hk⟩ => by
      cases hp
      cases hk⟩
    | 1, _ => ⟨⟨_, rfl, rfl⟩, fun ⟨_, hp, hk⟩ => by
      cases hp
      cases hk⟩
    | 2, _ => ⟨⟨_, rfl, rfl⟩, fun ⟨_, hp, hk⟩ => by
      cases hp
      cases hk⟩
    | 3, _ => ⟨⟨_, rfl, rfl⟩, fun _ => hin⟩
  have hrefers : ∀ m n, g.Refers m n → n < 4
    | 0, n, ⟨_, hp, hn⟩ => by
      cases hp
      exact (show ∀ c ∈ [0, 1], c < 4 by decide) n hn
    | 1, n, ⟨_, hp, hn⟩ => by
      cases hp
      exact (show ∀ c ∈ [0, 2], c < 4 by decide) n hn
    | 2, n, ⟨_, hp, hn⟩ => by
      cases hp
      exact (show ∀ c ∈ [3], c < 4 by decide) n hn
    | 3, _, ⟨_, hp, hn⟩ => by
      cases hp
      cases hn
    | _ + 4, _, ⟨_, hp, _⟩ => nomatch hp
  have hreached : ∀ n, ReflTransGen g.Refers 0 n → n < 4 := fun n hpath => by
    rcases ReflTransGen.cases_tail hpath with rfl | ⟨m, -, hmn⟩
    · decide
    · exact hrefers m n hmn
  have hstep : ∀ m n, m < 4 → n < 4 → g.Refers m n → g.PassesUsable m n := fun m n hm hn h =>
    ⟨⟨(hfits m hm).1, h⟩, (hfits n hn).1⟩
  have hpath : ReflTransGen g.PassesUsable 0 3 :=
    .tail (.tail (.single (hstep 0 1 (by decide) (by decide) ⟨_, rfl, .tail _ (.head _)⟩))
      (hstep 1 2 (by decide) (by decide) ⟨_, rfl, .tail _ (.head _)⟩))
      (hstep 2 3 (by decide) (by decide) ⟨_, rfl, .head _⟩)
  obtain ⟨_, _, hany, hall, _⟩ := area_iff_reach g hg none .view 0
  refine ⟨hg, (hany around).mpr ⟨3, (hfits 0 (by decide)).1, hpath, hin⟩,
    (hall around).mpr fun n hn => hfits n (hreached n hn), fun hbeside => ?_⟩
  obtain ⟨n, -, -, p, lat, lon, hp, hpos, hcontains⟩ := (hany beside).mp hbeside
  have hplace : lat = 0.5 ∧ lon = 0.5 :=
    match n, hp with
    | 0, hp => by
      cases hp
      cases hpos
    | 1, hp => by
      cases hp
      cases hpos
    | 2, hp => by
      cases hp
      cases hpos
    | 3, hp => by
      cases hp
      cases hpos
      exact ⟨rfl, rfl⟩
    | _ + 4, hp => nomatch hp
  rw [hplace.1, hplace.2] at hcontains
  exact absurd hcontains (by decide +kernel)

end Graph

end MapQuery
