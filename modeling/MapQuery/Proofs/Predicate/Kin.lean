import MapQuery.Proofs.Map.Contents
import MapQuery.Proofs.Map.Reach
import MapQuery.Proofs.Predicate.Chain
import MapQuery.Proofs.Predicate.Outcome

/-!
# Parents, children and roles on loaded maps

In a map that was loaded, what an object holds and who refers to it are two sides of one thing, and
queries for children, parents and roles can all be read off the first.

* `hasRole_iff` -- roles by the members of relations;
* `Pictures.hasChild_iff`, `hasParent_iff`, `role_iff` -- queries on a map that was loaded;
* `loaded_kinship` -- all of this on the map of any document that is accepted.
-/

namespace MapQuery

/-- **A role is the text it is**, and every value that counts as nothing is the empty text. -/
theorem roleIs_iff (role : Json) (name : String) : roleIs role name = true ↔
    (role.isEmptyLike = true ∧ name = "") ∨ (role.isEmptyLike = false ∧ role = .str name) := by
  unfold roleIs
  cases hr : role.isEmptyLike with
  | true => simp
  | false => cases role <;> simp [Json.isText, Json.text?]

namespace Graph

variable {g : Graph} {h : Handle} {p : Primitive}

theorem mem_childrenAt {r : Handle} : h ∈ g.childrenAt r ↔ g.Refers r h := by
  unfold Refers
  constructor
  · intro hm
    unfold childrenAt at hm
    cases hr : g.get? r with
    | none =>
      rw [hr] at hm
      cases hm
    | some q =>
      rw [hr] at hm
      exact ⟨q, rfl, hm⟩
  · rintro ⟨q, hq, hm⟩
    rw [childrenAt_eq hq]
    exact hm

theorem target_mem_children {q : Primitive} {m : Member} (hm : m ∈ q.members) :
    m.target ∈ q.children := by
  unfold Primitive.members at hm
  unfold Primitive.children
  cases hs : q.shape with
  | relation members =>
    rw [hs] at hm
    exact List.mem_map_of_mem hm
  | _ =>
    rw [hs] at hm
    cases hm

/-- Only relations have members. -/
theorem kind_of_mem_members {q : Primitive} {m : Member} (hm : m ∈ q.members) :
    q.kind = .relation := by
  unfold Primitive.members at hm
  unfold Primitive.kind
  cases hs : q.shape with
  | relation members => rfl
  | _ =>
    rw [hs] at hm
    cases hm

/-- Roles by the members of the relations that are known to an object. -/
theorem hasRole_iff_referrers (name : String) :
    g.hasRole h p name = true ↔ ∃ r ∈ p.referrers, ∃ q, g.get? r = some q ∧ q.kind = .relation ∧
      q.isUsable = true ∧ ∃ m ∈ q.members, m.target = h ∧ roleIs m.role name = true := by
  unfold hasRole resolve
  simp only [List.any_eq_true, List.mem_filterMap, Bool.and_eq_true, beq_iff_eq]
  constructor
  · rintro ⟨q, ⟨r, hr, hq⟩, husable, m, hm, htarget, hrole⟩
    exact ⟨r, hr, q, hq, kind_of_mem_members hm, husable, m, hm, htarget, hrole⟩
  · rintro ⟨r, hr, q, hq, -, husable, m, hm, htarget, hrole⟩
    exact ⟨q, ⟨r, hr, hq⟩, husable, m, hm, htarget, hrole⟩

/-- **Roles by the members of relations**, where all that hold an object are known to it. -/
theorem hasRole_iff (hp : ∀ r, r ∈ p.referrers ↔ g.Refers r h) (name : String) :
    g.hasRole h p name = true ↔ ∃ r q, g.get? r = some q ∧ q.kind = .relation ∧
      q.isUsable = true ∧ ∃ m ∈ q.members, m.target = h ∧ roleIs m.role name = true := by
  rw [hasRole_iff_referrers]
  refine exists_congr fun r => ⟨And.right, ?_⟩
  rintro ⟨q, hq, hkind, husable, m, hm, htarget, hrole⟩
  have hholds : g.Refers r h := ⟨q, hq, htarget ▸ target_mem_children hm⟩
  exact ⟨(hp r).mpr hholds, q, hq, hkind, husable, m, hm, htarget, hrole⟩

end Graph

namespace Document

variable {c : Content} {es : List Element} {h r : Handle} {p : Primitive}

theorem Pictures.mem_handles_of_refers (hc : Pictures c es) (hr : c.graph.Refers r h) :
    r ∈ c.dataset.handles := by
  obtain ⟨q, hq, -⟩ := hr
  exact hc.mem_handles_iff.mpr ⟨q, hq⟩

theorem Pictures.mem_handles_of_child (hc : Pictures c es) (hp : c.graph.get? h = some p)
    {x : Handle} (hx : x ∈ p.children) : x ∈ c.dataset.handles := by
  obtain ⟨k, hk⟩ := hc.keyAt_of_mem_children hp hx
  obtain ⟨q, hq, -⟩ := Graph.keyAt_eq_some_iff.mp hk
  exact hc.mem_handles_iff.mpr ⟨q, hq⟩

/-- An object knows just the ones that hold it. -/
theorem Pictures.mem_referrers_iff (hc : Pictures c es) (hp : c.graph.get? h = some p) :
    r ∈ p.referrers ↔ c.graph.Refers r h := by
  rw [hc.referrers hp, List.mem_filter, List.contains_iff_mem, Graph.mem_childrenAt]
  exact ⟨And.right, fun hr => ⟨hc.mem_handles_of_refers hr, hr⟩⟩

theorem isUsable_iff (p : Primitive) :
    p.isUsable = true ↔ p.deleted = false ∧ p.incomplete = false := by
  unfold Primitive.isUsable
  rw [Bool.and_eq_true, Bool.not_eq_true', Bool.not_eq_true']

namespace Pictures

variable {selection : Option (List Key)} {q : Predicate}

/-- **A child that passes is one of the objects of the map** that pass, and held by the object. -/
theorem hasChild_iff (hc : Pictures c es) (hh : h ∈ c.dataset.handles)
    (hq : ∀ x ∈ c.dataset.handles, c.graph.Refers h x →
      ∃ b, c.graph.holds selection q x = .ok b) :
    ∃ b, c.graph.holds selection (.hasChild q) h = .ok b ∧
      (b = true ↔ ∃ x ∈ c.dataset.handles, c.graph.Refers h x ∧
        c.graph.holds selection q x = .ok true) := by
  obtain ⟨p, hp⟩ := hc.mem_handles_iff.mp hh
  have hholds : ∀ x ∈ p.children, c.graph.Refers h x := fun x hx => ⟨p, hp, hx⟩
  rw [Graph.holds_of_get? hp, Graph.holdsAt_hasChild]
  obtain ⟨b, hb, hiff⟩ := Outcome.anyOf_eq_ok (l := p.children) fun x hx =>
    hq x (hc.mem_handles_of_child hp hx) (hholds x hx)
  refine ⟨b, hb, hiff.trans (exists_congr fun x => ?_)⟩
  constructor
  · exact fun ⟨hx, hpass⟩ => ⟨hc.mem_handles_of_child hp hx, hholds x hx, hpass⟩
  · rintro ⟨-, ⟨p', hp', hx⟩, hpass⟩
    cases hp.symm.trans hp'
    exact ⟨hx, hpass⟩

/-- **A parent that passes is one of the objects of the map** that pass, and holds the object. -/
theorem hasParent_iff (hc : Pictures c es) (hh : h ∈ c.dataset.handles)
    (hq : ∀ r ∈ c.dataset.handles, c.graph.Refers r h →
      ∃ b, c.graph.holds selection q r = .ok b) :
    ∃ b, c.graph.holds selection (.hasParent q) h = .ok b ∧
      (b = true ↔ ∃ r ∈ c.dataset.handles, c.graph.Refers r h ∧
        c.graph.holds selection q r = .ok true) := by
  obtain ⟨p, hp⟩ := hc.mem_handles_iff.mp hh
  rw [Graph.holds_of_get? hp, Graph.holdsAt_hasParent]
  obtain ⟨b, hb, hiff⟩ := Outcome.anyOf_eq_ok (l := p.referrers) fun r hr =>
    have hholds := (hc.mem_referrers_iff hp).mp hr
    hq r (hc.mem_handles_of_refers hholds) hholds
  refine ⟨b, hb, hiff.trans (exists_congr fun r => ?_)⟩
  rw [hc.mem_referrers_iff hp]
  exact ⟨fun ⟨hr, hpass⟩ => ⟨hc.mem_handles_of_refers hr, hr, hpass⟩, fun ⟨_, h⟩ => h⟩

/-- **An object has a role in the relations of the map** that are usable and have it as a member. -/
theorem role_iff (hc : Pictures c es) (hh : h ∈ c.dataset.handles) (name : String) :
    ∃ b, c.graph.holds selection (.role name) h = .ok b ∧
      (b = true ↔ ∃ r ∈ c.dataset.handles, ∃ p, c.graph.get? r = some p ∧ p.kind = .relation ∧
        p.deleted = false ∧ p.incomplete = false ∧ ∃ m ∈ p.members, m.target = h ∧
          ((m.role.isEmptyLike = true ∧ name = "") ∨
            (m.role.isEmptyLike = false ∧ m.role = .str name))) := by
  obtain ⟨p, hp⟩ := hc.mem_handles_iff.mp hh
  refine ⟨c.graph.hasRole h p name, ?_, ?_⟩
  · rw [Graph.holds_of_get? hp, Graph.holdsAt]
  · rw [Graph.hasRole_iff (fun r => hc.mem_referrers_iff hp)]
    simp only [isUsable_iff, roleIs_iff, and_assoc]
    refine exists_congr fun r => ?_
    constructor
    · rintro ⟨q, hq, hrest⟩
      exact ⟨hc.mem_handles_iff.mpr ⟨q, hq⟩, q, hq, hrest⟩
    · rintro ⟨-, q, hq, hrest⟩
      exact ⟨q, hq, hrest⟩

end Pictures

/-- **Kinship on loaded maps.** What the objects hold are the objects that the map has under their
    keys. An object knows the ones that hold it, in the order of the map and each once. So an object
    has a child that passes just if it holds some object of the map that passes, it has a parent
    that passes just if some object of the map passes and holds it, and it has a role just if some
    relation of the map, neither deleted nor incomplete, has it as a member in that role. -/
theorem loaded_kinship {j : Json} {c : Content} (hj : (load j).outcome = .ok c) :
    (∀ k h, c.dataset.get? k = some h ↔ ∃ p, c.graph.get? h = some p ∧ p.key = k) ∧
    (∀ h p, c.graph.get? h = some p → h ∈ c.dataset.handles ∧
      ∀ x ∈ p.children, ∃ q, c.graph.get? x = some q ∧ c.dataset.get? q.key = some x) ∧
    c.dataset.handles.Nodup ∧
    (∀ h p, c.graph.get? h = some p →
      p.referrers = c.dataset.handles.filter fun r => (c.graph.childrenAt r).contains h) ∧
    (∀ selection q, ∀ h ∈ c.dataset.handles,
      (∀ x ∈ c.dataset.handles, c.graph.Refers h x → ∃ b, c.graph.holds selection q x = .ok b) →
      ∃ b, c.graph.holds selection (.hasChild q) h = .ok b ∧
        (b = true ↔ ∃ x ∈ c.dataset.handles, c.graph.Refers h x ∧
          c.graph.holds selection q x = .ok true)) ∧
    (∀ selection q, ∀ h ∈ c.dataset.handles,
      (∀ r ∈ c.dataset.handles, c.graph.Refers r h → ∃ b, c.graph.holds selection q r = .ok b) →
      ∃ b, c.graph.holds selection (.hasParent q) h = .ok b ∧
        (b = true ↔ ∃ r ∈ c.dataset.handles, c.graph.Refers r h ∧
          c.graph.holds selection q r = .ok true)) ∧
    (∀ selection name, ∀ h ∈ c.dataset.handles,
      ∃ b, c.graph.holds selection (.role name) h = .ok b ∧
        (b = true ↔ ∃ r ∈ c.dataset.handles, ∃ p, c.graph.get? r = some p ∧ p.kind = .relation ∧
          p.deleted = false ∧ p.incomplete = false ∧ ∃ m ∈ p.members, m.target = h ∧
            ((m.role.isEmptyLike = true ∧ name = "") ∨
              (m.role.isEmptyLike = false ∧ m.role = .str name)))) := by
  obtain ⟨_, _, es, _, -, -, -, -, hc, -⟩ := pictures_of_load hj
  refine ⟨fun k h => ?_, fun h p hp => ⟨hc.mem_handles_iff.mpr ⟨p, hp⟩, fun x hx => ?_⟩, ?_,
    fun h p hp => hc.referrers hp, fun selection q h => hc.hasChild_iff,
    fun selection q h => hc.hasParent_iff, fun selection name h hh => hc.role_iff hh name⟩
  · rw [hc.get?_eq_some_iff, Graph.keyAt_eq_some_iff]
  · obtain ⟨k, hk⟩ := hc.keyAt_of_mem_children hp hx
    obtain ⟨q, hq, rfl⟩ := Graph.keyAt_eq_some_iff.mp hk
    exact ⟨q, hq, hc.get?_eq_some_iff.mpr hk⟩
  · rw [hc.handles]
    exact List.nodup_range

/-- A relation that holds itself and, in no role, a node that is missing. -/
theorem loaded_kinship_self :
    let j : Json := .obj [("elements", .arr [.obj [("type", .str "relation"), ("id", .int 1),
      ("members", .arr [
        .obj [("type", .str "relation"), ("ref", .int 1), ("role", .str "self")],
        .obj [("type", .str "node"), ("ref", .int 2), ("role", .null)]])]])]
    ∃ c, (load j).outcome = .ok c ∧
      c.graph.holds none (.hasParent (.kind .relation)) 1 = .ok true ∧
      c.graph.holds none (.role "self") 0 = .ok true ∧
      c.graph.holds none (.role "") 1 = .ok true := by
  intro j
  obtain ⟨c, hj, hhandles, relation, hrelation, hkind, hmembers, hdeleted, hincomplete⟩ :
      ∃ c, (load j).outcome = .ok c ∧ c.dataset.handles = [0, 1] ∧
        ∃ p, c.graph.get? 0 = some p ∧ p.kind = .relation ∧
          p.members = [⟨.str "self", 0⟩, ⟨.null, 1⟩] ∧ p.deleted = false ∧ p.incomplete = false :=
    ⟨_, rfl, rfl, _, rfl, rfl, rfl, rfl, rfl⟩
  obtain ⟨-, -, -, -, -, hparent, hrole⟩ := loaded_kinship hj
  have hmem : ∀ h ∈ [0, 1], h ∈ c.dataset.handles := fun h hh => hhandles ▸ hh
  have hroles : ∀ (h : Handle) (name : String) (m : Member), h ∈ [0, 1] → m ∈ relation.members →
      m.target = h → roleIs m.role name = true → c.graph.holds none (.role name) h = .ok true := by
    intro h name m hh hm htarget hname
    obtain ⟨b, hb, hiff⟩ := hrole none name h (hmem h hh)
    rw [hb, hiff.mpr ⟨0, hmem 0 (by decide), relation, hrelation, hkind, hdeleted, hincomplete, m,
      hm, htarget, (roleIs_iff m.role name).mp hname⟩]
  refine ⟨c, hj, ?_, ?_, ?_⟩
  · obtain ⟨b, hb, hiff⟩ := hparent none (.kind .relation) 1 (hmem 1 (by decide)) fun r _ hr => by
      obtain ⟨p, hp, -⟩ := hr
      exact ⟨p.kind == .relation, by rw [Graph.holds_of_get? hp, Graph.holdsAt]⟩
    have hchild : (1 : Handle) ∈ relation.children :=
      Graph.target_mem_children (m := ⟨.null, 1⟩) (hmembers ▸ by simp)
    rw [hb, hiff.mpr ⟨0, hmem 0 (by decide), ⟨relation, hrelation, hchild⟩, by
      rw [Graph.holds_of_get? hrelation, Graph.holdsAt, hkind]; rfl⟩]
  · exact hroles 0 "self" ⟨.str "self", 0⟩ (by decide) (hmembers ▸ by simp) rfl rfl
  · exact hroles 1 "" ⟨.null, 1⟩ (by decide) (hmembers ▸ by simp) rfl rfl

end Document

end MapQuery
