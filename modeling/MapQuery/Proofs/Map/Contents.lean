import MapQuery.Proofs.Map.Assembly
import MapQuery.Proofs.Map.Referrers

/-!
# What a loaded map contains

* `Pictures` -- a map holds the objects that elements add up to, each at the place of its key;
* `pictures_of_load` -- the map of a document that is accepted pictures its elements;
* `Graph.Depicts` -- an object is as an element says, up to places;
* `loaded_contents` -- the keys and objects of a map, by the document it was loaded from.
-/

namespace MapQuery

/-! ## 1. Objects by keys -/

/-- The key of the object at a place. -/
def Graph.keyAt (g : Graph) (h : Handle) : Option Key := (g.get? h).map Primitive.key

theorem Graph.keyAt_eq_some_iff {g : Graph} {h : Handle} {k : Key} :
    g.keyAt h = some k ↔ ∃ p, g.get? h = some p ∧ p.key = k :=
  Option.map_eq_some_iff

/-- The nodes of a way, which play no role, or the members of a relation. -/
def Primitive.parts (p : Primitive) : List Member :=
  match p.shape with
  | .node _ _ => []
  | .way nodes => nodes.map fun h => ⟨.null, h⟩
  | .relation members => members

theorem Primitive.children_eq (p : Primitive) : p.children = p.parts.map Member.target := by
  unfold children parts
  cases p.shape with
  | node lat lon => rfl
  | way nodes =>
    rw [List.map_map]
    exact (List.map_id _).symm
  | relation members => rfl

namespace Document

/-- The object says of itself what the element says, and holds in order what the element
    mentions. -/
structure Depicts (g : Graph) (p : Primitive) (e : Element) : Prop where
  key : p.key = e.key
  own : p = { e.own with shape := e.own.shape.withMembers p.parts, referrers := p.referrers }
  parts : List.Forall₂ (fun part m => part.role = m.role ∧ g.keyAt part.target = some m.key)
    p.parts e.mentions

/-- What is mentioned under a key. -/
def mentionsOf (es : List Element) (k : Key) : List Mention :=
  ((lastOf es k).map Element.mentions).getD []

variable {es : List Element} {k : Key} {c : Content} {h : Handle} {p : Primitive}

theorem lastOf_mem {e : Element} (he : lastOf es k = some e) : e ∈ es ∧ e.key = k := by
  obtain ⟨hk, before, after, rfl, -⟩ := lastOf_eq_some_iff.mp he
  exact ⟨List.mem_append_right before List.mem_cons_self, hk⟩

theorem parts_linked {e : Element} (he : e.Plain) (place : Key → Handle) :
    (linked place e.own e.mentions).parts = membersAt place e.mentions := by
  unfold linked Primitive.parts
  cases hs : e.own.shape with
  | node lat lon =>
    have hnone : e.mentions = [] := he.ofNode (congrArg Shape.kind hs)
    rw [hnone]
    rfl
  | way nodes =>
    -- the roles of nodes are the same as if they were members
    show ((membersAt place e.mentions).map Member.target).map _ = _
    unfold membersAt
    rw [List.map_map, List.map_map]
    refine List.map_congr_left fun m hm => ?_
    have hrole : m.role = .null := (he.ofWay (congrArg Shape.kind hs) m hm).1
    show (⟨.null, place m.key⟩ : Member) = ⟨m.role, place m.key⟩
    rw [hrole]
  | relation members => rfl

theorem parts_placeholder (k : Key) : (Primitive.placeholder k).parts = [] := by
  unfold Primitive.placeholder Primitive.parts
  cases k.kind <;> rfl

/-- What the object under a key holds. -/
theorem parts_objectOf (hes : ∀ e ∈ es, e.Plain) (k : Key) :
    (objectOf es k).parts = membersAt (keysOf es).idxOf (mentionsOf es k) := by
  unfold objectOf mentionsOf
  cases he : lastOf es k with
  | none => exact parts_placeholder k
  | some e => exact parts_linked (hes e (lastOf_mem he).1) _

theorem referrers_objectOf (hes : ∀ e ∈ es, e.Plain) (k : Key) :
    (objectOf es k).referrers = [] := by
  unfold objectOf
  cases he : lastOf es k with
  | none => rfl
  | some e => exact (hes e (lastOf_mem he).1).referrers

theorem key_objectOf (k : Key) : (objectOf es k).key = k := (shows_draftOf es).key k

/-- What is mentioned under a key is one of the keys. -/
theorem mem_keysOf_of_mentionsOf {m : Mention} (hm : m ∈ mentionsOf es k) :
    m.key ∈ keysOf es := by
  unfold mentionsOf at hm
  cases he : lastOf es k with
  | none =>
    rw [he] at hm
    cases hm
  | some e =>
    rw [he] at hm
    unfold keysOf
    rw [List.mem_eraseDups, List.mem_append, List.mem_flatMap]
    exact Or.inr ⟨e, (lastOf_mem he).1, List.mem_map_of_mem hm⟩

/-! ## 2. Pictures -/

/-- A map holds the objects that elements add up to, each at the place of its key, and each object
    knows which ones refer to it. -/
structure Pictures (c : Content) (es : List Element) : Prop where
  plain : ∀ e ∈ es, e.Plain
  entries : c.dataset.entries = (keysOf es).zipIdx
  object : ∀ h, c.graph.get? h = (keysOf es)[h]?.map fun k =>
    { objectOf es k with
      referrers := c.dataset.handles.filter fun r => (c.graph.childrenAt r).contains h }

theorem assembled_pictures (hes : ∀ e ∈ es, e.Plain) (b : Option Bounds) :
    Pictures (assembled es b) es ∧ (assembled es b).dataset.bounds = b := by
  have hshows := shows_draftOf es
  have hcontent := hshows.content_eq (fun k _ => referrers_objectOf hes k) b
  have hhandles : (({ entries := (keysOf es).zipIdx, bounds := b } : DataSet)).handles =
      List.range (keysOf es).length := by
    unfold DataSet.handles
    rw [List.zipIdx_map_snd, ← List.range_eq_range']
  unfold assembled
  rw [hcontent]
  refine ⟨⟨hes, rfl, fun h => ?_⟩, rfl⟩
  simp only [Graph.childrenAt_referred]
  rw [Graph.get?_referred, hshows.get?, hhandles, Option.map_map]
  rfl

/-- **The map of a document that is accepted pictures its elements.** -/
theorem pictures_of_load {j : Json} (hj : (load j).outcome = .ok c) :
    ∃ items box es b, parts j = some (items, box) ∧ List.Forall₂ Reads (recognised items) es ∧
      readBounds box = .ok b ∧ c = assembled es b ∧ Pictures c es ∧ c.dataset.bounds = b := by
  obtain ⟨items, box, es, b, hparts, hes, hb, rfl⟩ := load_eq_ok_iff.mp hj
  have hplain : ∀ e ∈ es, e.Plain := fun e he => by
    obtain ⟨_, -, hread⟩ := exists_of_mem_right hes he
    exact hread.plain
  obtain ⟨hpict, hbounds⟩ := assembled_pictures hplain b
  exact ⟨items, box, es, b, hparts, hes, hb, rfl, hpict, hbounds⟩

namespace Pictures

theorem keys (hc : Pictures c es) : c.dataset.entries.map Prod.fst = keysOf es := by
  rw [hc.entries, List.zipIdx_map_fst]

theorem handles (hc : Pictures c es) : c.dataset.handles = List.range (keysOf es).length := by
  unfold DataSet.handles
  rw [hc.entries, List.zipIdx_map_snd, ← List.range_eq_range']

theorem keyAt (hc : Pictures c es) (h : Handle) : c.graph.keyAt h = (keysOf es)[h]? := by
  unfold Graph.keyAt
  rw [hc.object, Option.map_map]
  have hid : (Primitive.key ∘ fun k =>
      { objectOf es k with
        referrers := c.dataset.handles.filter fun r => (c.graph.childrenAt r).contains h }) = id :=
    funext fun k => key_objectOf k
  rw [hid, Option.map_id, id]

/-- **An object is found under its key, and under no other.** -/
theorem get?_eq_some_iff (hc : Pictures c es) :
    c.dataset.get? k = some h ↔ c.graph.keyAt h = some k := by
  unfold DataSet.get?
  rw [hc.keyAt, hc.entries, findEntry_zipIdx, Nat.zero_add]
  have hn : (keysOf es).Nodup := nodup_eraseDups _
  constructor
  · intro hfound
    split at hfound
    · next hk =>
      cases hfound
      exact List.getElem?_idxOf hk
    · cases hfound
  · intro hat
    obtain ⟨hlt, rfl⟩ := List.getElem?_eq_some_iff.mp hat
    rw [if_pos (List.getElem_mem hlt), hn.idxOf_getElem h hlt]

theorem keyAt_idxOf (hc : Pictures c es) (hk : k ∈ keysOf es) :
    c.graph.keyAt ((keysOf es).idxOf k) = some k := by
  rw [hc.keyAt]
  exact List.getElem?_idxOf hk

/-- What stands under a key of the map. -/
theorem exists_object (hc : Pictures c es) (hk : k ∈ keysOf es) :
    ∃ h p, c.dataset.get? k = some h ∧ c.graph.get? h = some p ∧
      p = { objectOf es k with referrers := p.referrers } := by
  have hp := hc.object ((keysOf es).idxOf k)
  rw [List.getElem?_idxOf hk] at hp
  exact ⟨_, _, hc.get?_eq_some_iff.mpr (hc.keyAt_idxOf hk), hp, rfl⟩

/-- **What an object holds is what the last element with its key mentions**, and all of it is
    there. -/
theorem parts_forall₂ (hc : Pictures c es) (hp : c.graph.get? h = some p) :
    List.Forall₂ (fun part m => part.role = m.role ∧ c.graph.keyAt part.target = some m.key)
      p.parts (mentionsOf es p.key) := by
  rw [hc.object, Option.map_eq_some_iff] at hp
  obtain ⟨k, -, rfl⟩ := hp
  show List.Forall₂ _ (objectOf es k).parts (mentionsOf es (objectOf es k).key)
  rw [key_objectOf, parts_objectOf hc.plain]
  unfold membersAt
  rw [List.forall₂_map_left_iff, List.forall₂_same]
  exact fun m hm => ⟨rfl, hc.keyAt_idxOf (mem_keysOf_of_mentionsOf hm)⟩

/-- **Under the key of an element stands what the last element with the key says.** -/
theorem depicts (hc : Pictures c es) {e : Element} (hlast : lastOf es e.key = some e) :
    ∃ h p, c.dataset.get? e.key = some h ∧ c.graph.get? h = some p ∧ Depicts c.graph p e := by
  have hmem : e ∈ es := (lastOf_mem hlast).1
  have hk : e.key ∈ keysOf es := by
    unfold keysOf
    rw [List.mem_eraseDups, List.mem_append]
    exact Or.inl (List.mem_map_of_mem hmem)
  obtain ⟨h, p, hh, hp, hobject⟩ := hc.exists_object hk
  have hlinked : objectOf es e.key = linked (keysOf es).idxOf e.own e.mentions := by
    unfold objectOf
    rw [hlast]
  have hkey : p.key = e.key := by
    rw [hobject]
    exact key_objectOf e.key
  have hmentions : mentionsOf es p.key = e.mentions := by
    unfold mentionsOf
    rw [hkey, hlast]
    rfl
  have hparts : p.parts = membersAt (keysOf es).idxOf e.mentions := by
    rw [hobject]
    show (objectOf es e.key).parts = _
    rw [hlinked, parts_linked (hc.plain e hmem)]
  refine ⟨h, p, hh, hp, hkey, ?_, hmentions ▸ hc.parts_forall₂ hp⟩
  rw [hparts]
  rw [hlinked] at hobject
  exact hobject

/-- Under a key that is only mentioned stands a placeholder. -/
theorem placeholder (hc : Pictures c es) (hk : k ∈ keysOf es) (hnew : k ∉ es.map Element.key) :
    ∃ h p, c.dataset.get? k = some h ∧ c.graph.get? h = some p ∧
      p = { Primitive.placeholder k with referrers := p.referrers } := by
  obtain ⟨h, p, hh, hp, hobject⟩ := hc.exists_object hk
  have hplaceholder : objectOf es k = Primitive.placeholder k := by
    unfold objectOf
    rw [lastOf_eq_none_iff.mpr hnew]
  rw [hplaceholder] at hobject
  exact ⟨h, p, hh, hp, hobject⟩

/-- All objects of the graph belong to the map. -/
theorem mem_handles_iff (hc : Pictures c es) :
    h ∈ c.dataset.handles ↔ ∃ p, c.graph.get? h = some p := by
  rw [hc.handles, List.mem_range, hc.object]
  constructor
  · intro hlt
    rw [List.getElem?_eq_getElem hlt]
    exact ⟨_, rfl⟩
  · rintro ⟨p, hp⟩
    obtain ⟨k, hk, -⟩ := Option.map_eq_some_iff.mp hp
    exact (List.getElem?_eq_some_iff.mp hk).1

/-- An object knows the ones that hold it, in the order of the map. -/
theorem referrers (hc : Pictures c es) (hp : c.graph.get? h = some p) :
    p.referrers = c.dataset.handles.filter fun r => (c.graph.childrenAt r).contains h := by
  rw [hc.object] at hp
  obtain ⟨k, -, rfl⟩ := Option.map_eq_some_iff.mp hp
  rfl

/-- What an object holds is there. -/
theorem keyAt_of_mem_children (hc : Pictures c es) (hp : c.graph.get? h = some p) {x : Handle}
    (hx : x ∈ p.children) : ∃ k, c.graph.keyAt x = some k := by
  rw [Primitive.children_eq, List.mem_map] at hx
  obtain ⟨part, hpart, rfl⟩ := hx
  obtain ⟨m, -, -, hm⟩ := exists_of_mem_left (hc.parts_forall₂ hp) hpart
  exact ⟨m.key, hm⟩

end Pictures

/-! ## 3. The contents of a map -/

/-- The keys of the elements come first, and then those that are only mentioned. -/
theorem keysOf_eq (es : List Element) : keysOf es = (es.map Element.key).eraseDups ++
    ((es.flatMap Element.targets).filter fun k => k ∉ es.map Element.key).eraseDups := by
  unfold keysOf
  rw [List.eraseDups_append]
  congr 2
  refine List.filter_congr fun k _ => ?_
  rw [Bool.eq_iff_iff]
  simp

/-- **What a loaded map contains.** The document is read into elements, one for each value that
    describes an object. The keys of the map are those of the elements by first occurrence, and then
    those that are only mentioned, by first mention. Under the key of an element stands the object
    that the last element with the key depicts, and under any other key a placeholder. Values that
    describe no object are what the warnings are about, one each, and without them the map is the
    same. -/
theorem loaded_contents {j : Json} {c : Content} (hj : (load j).outcome = .ok c) :
    ∃ items box es, parts j = some (items, box) ∧ List.Forall₂ Reads (recognised items) es ∧
      (recognised items).map elementKey? = es.map (fun e => some e.key) ∧
      c.dataset.entries.map Prod.fst = (es.map Element.key).eraseDups ++
        ((es.flatMap Element.targets).filter fun k => k ∉ es.map Element.key).eraseDups ∧
      (∀ before e after, es = before ++ e :: after → (∀ e' ∈ after, e'.key ≠ e.key) →
        ∃ h p, c.dataset.get? e.key = some h ∧ c.graph.get? h = some p ∧ Depicts c.graph p e) ∧
      (∀ k ∈ c.dataset.entries.map Prod.fst, k ∉ es.map Element.key →
        ∃ h p, c.dataset.get? k = some h ∧ c.graph.get? h = some p ∧
          p = { Primitive.placeholder k with referrers := p.referrers }) ∧
      (∀ source, (load j).warnings source = (unrecognised items).map fun v =>
        "Unknown element `" ++ v.plainText ++ "` in " ++ source ++ ". Skipping ...") ∧
      ∀ j', parts j' = some (items.filter fun v => (elementOf v).isSome, box) →
        (load j').outcome = .ok c ∧ (load j').unknown = [] := by
  obtain ⟨items, box, es, b, hparts, hes, hb, hc, hpict, -⟩ := pictures_of_load hj
  refine ⟨items, box, es, hparts, hes, keys_of_reads hes, ?_, ?_, ?_, ?_, ?_⟩
  · rw [hpict.keys, keysOf_eq]
  · intro before e after hsplit hafter
    exact hpict.depicts (lastOf_eq_some_iff.mpr ⟨rfl, before, after, hsplit, hafter⟩)
  · intro k hk hnew
    rw [hpict.keys] at hk
    exact hpict.placeholder hk hnew
  · intro source
    unfold Loading.warnings
    rw [unknown_of_load hparts hj]
  · intro j' hj'
    have hload : (load j').outcome = .ok c :=
      load_eq_ok_iff.mpr ⟨_, box, es, b, hj', (recognised_filter items).symm ▸ hes, hb, hc⟩
    refine ⟨hload, ?_⟩
    rw [unknown_of_load hj' hload, unrecognised_filter]

/-- A way that is replaced, so that a node which only the first one mentions is there all the same,
    and a value that describes no object. -/
theorem loaded_contents_replaced :
    let j : Json := .obj [("elements", .arr [
      .obj [("type", .str "way"), ("id", .int 10), ("nodes", .arr [.int 5])], .str "way",
      .obj [("type", .str "way"), ("id", .int 10), ("nodes", .arr [.int 2, .int 1, .int 2])],
      .obj [("type", .str "node"), ("id", .int 1)]])]
    ∃ c h p, (load j).outcome = .ok c ∧
      c.dataset.entries.map Prod.fst = [⟨.way, 10⟩, ⟨.node, 1⟩, ⟨.node, 5⟩, ⟨.node, 2⟩] ∧
      c.dataset.get? ⟨.node, 5⟩ = some h ∧ c.graph.get? h = some p ∧
      p = { Primitive.placeholder ⟨.node, 5⟩ with referrers := p.referrers } := by
  intro j
  obtain ⟨c, hj, hkeys⟩ : ∃ c, (load j).outcome = .ok c ∧
      c.dataset.entries.map Prod.fst = [⟨.way, 10⟩, ⟨.node, 1⟩, ⟨.node, 5⟩, ⟨.node, 2⟩] :=
    ⟨_, rfl, rfl⟩
  obtain ⟨items, box, es, hparts, -, hes, -, -, hothers, -⟩ := loaded_contents hj
  cases hparts
  have hown : (es.map Element.key).map some =
      [some ⟨.way, 10⟩, some ⟨.way, 10⟩, some ⟨.node, 1⟩] := by
    rw [List.map_map]
    exact hes.symm
  obtain ⟨h, p, hh, hp, hplaceholder⟩ := hothers ⟨.node, 5⟩ (by rw [hkeys]; decide) fun hm => by
    have hmem := List.mem_map_of_mem (f := some) hm
    rw [hown] at hmem
    exact absurd hmem (by decide)
  exact ⟨c, h, p, hj, hkeys, hh, hp, hplaceholder⟩

end Document

end MapQuery
