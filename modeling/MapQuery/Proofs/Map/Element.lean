import MapQuery.Map.Document
import MapQuery.Proofs.Fallible
import Mathlib.Data.List.Forall2

/-!
# What the elements of a document say

Loading reads the elements twice: the objects first, and then what these refer to, while objects are
still added to the draft. What is read does not depend on the draft, so both readings can be taken
apart from what is done with them.

* `Element` -- an element that was read: the object itself, and what it mentions;
* `Reads` -- the element that a value of a document describes;
* `Described`, `described_of_attributes` -- what its object has from the fields;
* `assembled` -- the map of elements that were read;
* `load_eq_ok_iff` -- a document is accepted just if all its elements and its box can be read, and
  its map is then the one assembled.
-/

namespace MapQuery.Document

open MapQuery.Field (need orNull toInteger)

/-! ## 1. Elements that were read -/

/-- A reference to an object, with the role it plays as the document gives it. Nodes of ways play
    none. -/
structure Mention where
  role : Json
  key : Key

/-- What an element says: about the object itself, and which objects that refers to. -/
structure Element where
  own : Primitive
  mentions : List Mention

namespace Element

/-- What the object of an element is known by. -/
def key (e : Element) : Key := e.own.key

/-- The objects that an element refers to, in order and with repeats. -/
def targets (e : Element) : List Key := e.mentions.map Mention.key

end Element

/-- What the object is known by that a value describes, if its number can be read. -/
def elementKey? (described : Kind × Fields) : Option Key :=
  match need described.2 "id" >>= toInteger with
  | .ok id => some ⟨described.1, id⟩
  | .error _ => none

/-- A value read as a node of a way. -/
def nodeMention? (j : Json) : Option Mention :=
  match toInteger j with
  | .ok id => some ⟨.null, ⟨.node, id⟩⟩
  | .error _ => none

/-- A value read as a member of a relation. -/
def memberMention? (j : Json) : Option Mention :=
  match elementOf j with
  | none => none
  | some (kind, fields) =>
    match need fields "ref" >>= toInteger with
    | .ok id => some ⟨orNull fields "role", ⟨kind, id⟩⟩
    | .error _ => none

/-- The fields of an object of some kind mention these objects: the nodes of a way, the members of a
    relation, none for a node. -/
def Mentions (kind : Kind) (fields : Fields) (ms : List Mention) : Prop :=
  match kind with
  | .node => ms = []
  | .way => ∃ items, Field.listOrEmpty fields "nodes" = .ok items ∧
      List.Forall₂ (fun j m => nodeMention? j = some m) items ms
  | .relation => ∃ items, Field.listOrEmpty fields "members" = .ok items ∧
      List.Forall₂ (fun j m => memberMention? j = some m) items ms

/-- A value that describes an object says this. -/
def Reads (described : Kind × Fields) (e : Element) : Prop :=
  attributes described.1 described.2 = .ok e.own ∧
    Mentions described.1 described.2 e.mentions

/-- The values of a list that describe objects, with what they say. -/
def recognised (items : List Json) : List (Kind × Fields) := items.filterMap elementOf

/-- The values of a list that describe no object. -/
def unrecognised (items : List Json) : List Json := items.filter fun j => (elementOf j).isNone

/-- Values that describe no object can be left out. -/
theorem recognised_filter (items : List Json) :
    recognised (items.filter fun j => (elementOf j).isSome) = recognised items := by
  unfold recognised
  rw [List.filterMap_filter]
  refine List.filterMap_congr fun j _ => ?_
  cases elementOf j <;> rfl

theorem unrecognised_filter (items : List Json) :
    unrecognised (items.filter fun j => (elementOf j).isSome) = [] := by
  unfold unrecognised
  rw [List.filter_filter, List.filter_eq_nil_iff]
  intro j _
  cases elementOf j <;> simp

/-! ## 2. Values side by side -/

/-- Each value on the right side has one it comes from. -/
theorem exists_of_mem_right {α β : Type} {R : α → β → Prop} {xs : List α} {ys : List β}
    (h : List.Forall₂ R xs ys) {y : β} (hy : y ∈ ys) : ∃ x ∈ xs, R x y := by
  induction h with
  | nil => cases hy
  | cons hr _ ih =>
    rcases List.mem_cons.mp hy with rfl | hy
    · exact ⟨_, List.mem_cons_self, hr⟩
    · obtain ⟨x, hx, hr⟩ := ih hy
      exact ⟨x, List.mem_cons_of_mem _ hx, hr⟩

/-- Each value on the left side has one that comes from it. -/
theorem exists_of_mem_left {α β : Type} {R : α → β → Prop} {xs : List α} {ys : List β}
    (h : List.Forall₂ R xs ys) {x : α} (hx : x ∈ xs) : ∃ y ∈ ys, R x y :=
  exists_of_mem_right h.flip hx

section

variable {α β : Type} {R : α → β → Prop} {P : List β → Prop} {x : α} {xs : List α} {y : β}

/-- Nothing comes from no values. -/
theorem exists_forall₂_nil : (∃ ys, List.Forall₂ R [] ys ∧ P ys) ↔ P [] := by
  simp only [List.forall₂_nil_left_iff, exists_eq_left]

/-- The value that comes first is known if only one can come from the first value. -/
theorem exists_forall₂_cons (hx : ∀ z, R x z ↔ z = y) :
    (∃ ys, List.Forall₂ R (x :: xs) ys ∧ P ys) ↔ ∃ ys, List.Forall₂ R xs ys ∧ P (y :: ys) := by
  constructor
  · rintro ⟨_, h, hP⟩
    obtain ⟨z, ys, hz, hys, rfl⟩ := List.forall₂_cons_left_iff.mp h
    obtain rfl := (hx z).mp hz
    exact ⟨ys, hys, hP⟩
  · rintro ⟨ys, hys, hP⟩
    exact ⟨y :: ys, .cons ((hx y).mpr rfl) hys, hP⟩

/-- Nothing comes from values if nothing comes from the first one. -/
theorem not_exists_forall₂_cons (hx : ∀ z, ¬ R x z) :
    ¬ ∃ ys, List.Forall₂ R (x :: xs) ys ∧ P ys := by
  rintro ⟨_, h, -⟩
  obtain ⟨z, _, hz, -, -⟩ := List.forall₂_cons_left_iff.mp h
  exact hx z hz

end

/-! ## 3. Objects and their fields -/

/-- What an object has from the fields of an element: it is complete, and nothing is linked to it. -/
structure Described (k : Kind) (fields : Fields) (p : Primitive) : Prop where
  kind : p.kind = k
  id : need fields "id" >>= toInteger = .ok p.id
  version : Field.integerOrZero fields "version" = .ok p.version
  changeset : Field.integerOrZero fields "changeset" = .ok p.changeset
  timestamp : Field.toTime (orNull fields "timestamp") = .ok p.timestamp
  tags : ∃ tags, Field.toTexts (orNull fields "tags") = .ok tags ∧ p.tags = Tags.ofList tags
  user : p.user = if (orNull fields "user").isEmptyLike then .null else orNull fields "user"
  coordinates : k = .node → (∃ lat, Field.optionalReal fields "lat" = .ok lat) ∧
    ∃ lon, Field.optionalReal fields "lon" = .ok lon
  complete : p.incomplete = false
  children : p.children = []
  referrers : p.referrers = []

/-- **An object that was read is the one that its fields describe.** -/
theorem described_of_attributes {kind : Kind} {fields : Fields} {p : Primitive}
    (h : attributes kind fields = .ok p) : Described kind fields p := by
  unfold attributes at h
  obtain ⟨id, hid, h⟩ := bind_bind_eq_ok.mp h
  obtain ⟨tags, htags, h⟩ := bind_eq_ok.mp h
  obtain ⟨version, hversion, h⟩ := bind_eq_ok.mp h
  obtain ⟨changeset, hchangeset, h⟩ := bind_eq_ok.mp h
  obtain ⟨timestamp, htime, h⟩ := bind_eq_ok.mp h
  cases kind with
  | node =>
    obtain ⟨lat, hlat, h⟩ := bind_eq_ok.mp h
    obtain ⟨lon, hlon, h⟩ := bind_eq_ok.mp h
    cases h
    exact ⟨rfl, hid, hversion, hchangeset, htime, ⟨tags, htags, rfl⟩, rfl,
      fun _ => ⟨⟨lat, hlat⟩, ⟨lon, hlon⟩⟩, rfl, rfl, rfl⟩
  | way =>
    cases h
    exact ⟨rfl, hid, hversion, hchangeset, htime, ⟨tags, htags, rfl⟩, rfl, nofun, rfl, rfl, rfl⟩
  | relation =>
    cases h
    exact ⟨rfl, hid, hversion, hchangeset, htime, ⟨tags, htags, rfl⟩, rfl, nofun, rfl, rfl, rfl⟩

/-- What holds of every element that was read: nothing is linked to its object yet, nodes mention
    nothing, and ways mention nodes that play no role. -/
structure Element.Plain (e : Element) : Prop where
  referrers : e.own.referrers = []
  children : e.own.children = []
  ofNode : e.key.kind = .node → e.mentions = []
  ofWay : e.key.kind = .way → ∀ m ∈ e.mentions, m.role = .null ∧ m.key.kind = .node

theorem nodeMention?_eq_some {j : Json} {m : Mention} (h : nodeMention? j = some m) :
    m.role = .null ∧ m.key.kind = .node := by
  unfold nodeMention? at h
  split at h
  · cases h
    exact ⟨rfl, rfl⟩
  · cases h

theorem Reads.plain {described : Kind × Fields} {e : Element} (h : Reads described e) :
    e.Plain := by
  obtain ⟨hown, hmentions⟩ := h
  have hdescribed := described_of_attributes hown
  have hkey : e.key.kind = described.1 := hdescribed.kind
  unfold Mentions at hmentions
  refine ⟨hdescribed.referrers, hdescribed.children, fun hk => ?_, fun hk m hm => ?_⟩
  · rw [← hkey, hk] at hmentions
    exact hmentions
  · rw [← hkey, hk] at hmentions
    obtain ⟨items, -, hitems⟩ := hmentions
    obtain ⟨j, -, hj⟩ := exists_of_mem_right hitems hm
    exact nodeMention?_eq_some hj

theorem Reads.elementKey {described : Kind × Fields} {e : Element} (h : Reads described e) :
    elementKey? described = some e.key := by
  have hdescribed := described_of_attributes h.1
  unfold elementKey?
  rw [hdescribed.id, ← hdescribed.kind]
  rfl

/-- The elements that were read have the keys that the document gives. -/
theorem keys_of_reads {described : List (Kind × Fields)} {es : List Element}
    (hes : List.Forall₂ Reads described es) :
    described.map elementKey? = es.map fun e => some e.key := by
  induction hes with
  | nil => rfl
  | cons h _ ih => rw [List.map_cons, List.map_cons, h.elementKey, ih]

/-! ## 4. The first reading -/

/-- Objects put into a draft one by one. -/
def Draft.putAll (d : Draft) (ps : List Primitive) : Draft := ps.foldl Draft.put d

/-- **The first reading puts the objects of the elements in turn**, and keeps what else the elements
    say for the second one; values that describe no object are only noted. -/
theorem gather_eq_none {g g' : Gathered} {items : List Json} :
    gather g items = (g', none) ↔
      ∃ ps, List.Forall₂ (fun e p => attributes e.1 e.2 = .ok p) (recognised items) ps ∧
        g' = ⟨g.draft.putAll ps,
          g.elements ++ List.zipWith (fun p e => (p.key, e.2)) ps (recognised items),
          g.unknown ++ unrecognised items⟩ := by
  induction items generalizing g with
  | nil =>
    rw [show recognised [] = [] from rfl, exists_forall₂_nil]
    unfold gather unrecognised
    simp [Draft.putAll, eq_comm]
  | cons j r ih =>
    unfold gather gatherOne
    cases hj : elementOf j with
    | none =>
      have hrec : recognised (j :: r) = recognised r := List.filterMap_cons_none hj
      have hunk : unrecognised (j :: r) = j :: unrecognised r :=
        List.filter_cons_of_pos (by rw [hj]; rfl)
      simp only
      rw [ih, hrec, hunk]
      simp only [List.append_assoc, List.singleton_append]
    | some e =>
      obtain ⟨kind, fields⟩ := e
      have hrec : recognised (j :: r) = (kind, fields) :: recognised r :=
        List.filterMap_cons_some hj
      have hunk : unrecognised (j :: r) = unrecognised r :=
        List.filter_cons_of_neg (by rw [hj]; exact Bool.false_ne_true)
      rw [hrec, hunk]
      simp only
      cases hp : attributes kind fields with
      | error e =>
        exact iff_of_false (fun h => nomatch h) (not_exists_forall₂_cons fun p h => by
          rw [hp] at h
          cases h)
      | ok p =>
        rw [exists_forall₂_cons fun p' => by rw [hp, Except.ok.injEq, eq_comm]]
        simp only
        rw [ih]
        simp only [Draft.putAll, List.foldl_cons, List.zipWith_cons_cons, List.append_assoc,
          List.singleton_append]

theorem owns_of_reads {described : List (Kind × Fields)} {es : List Element}
    (hes : List.Forall₂ Reads described es) :
    List.Forall₂ (fun e p => attributes e.1 e.2 = .ok p) described (es.map Element.own) :=
  List.forall₂_map_right_iff.mpr (hes.imp fun _ _ hread => hread.1)

theorem owns_unique {described : List (Kind × Fields)} {ps ps' : List Primitive}
    (h : List.Forall₂ (fun e p => attributes e.1 e.2 = .ok p) described ps)
    (h' : List.Forall₂ (fun e p => attributes e.1 e.2 = .ok p) described ps') : ps = ps' :=
  Relator.RightUnique.forall₂ (fun _ _ _ e e' => Except.ok.inj (e.symm.trans e')) h h'

/-! ## 5. The second reading -/

/-- What is mentioned, resolved in order. -/
def Draft.resolveAll : Draft → List Mention → List Member × Draft
  | d, [] => ([], d)
  | d, m :: r =>
    let (h, d) := d.resolve m.key
    let (members, d) := d.resolveAll r
    (⟨m.role, h⟩ :: members, d)

/-- What an object refers to, attached to it. -/
def Draft.attach (d : Draft) (owner : Key) (ms : List Mention) : Draft :=
  let (members, d) := d.resolveAll ms
  match owner.kind with
  | .node => d
  | .way => d.reshape owner (.way (members.map Member.target))
  | .relation => d.reshape owner (.relation members)

theorem linkNodes_eq_ok {owner : Key} {d : Draft} {items : List Json}
    {r : List Handle × Draft} : linkNodes owner d items = .ok r ↔
      ∃ ms, List.Forall₂ (fun j m => nodeMention? j = some m) items ms ∧
        r = ((d.resolveAll ms).1.map Member.target, (d.resolveAll ms).2) := by
  induction items generalizing d r with
  | nil =>
    rw [exists_forall₂_nil]
    unfold linkNodes
    rw [Except.ok.injEq]
    exact eq_comm
  | cons j items ih =>
    unfold linkNodes
    cases hj : toInteger j with
    | error e =>
      have hsilent : nodeMention? j = none := by
        unfold nodeMention?
        rw [hj]
      exact iff_of_false (fun h => nomatch h) (not_exists_forall₂_cons fun m hm => by
        rw [hsilent] at hm
        cases hm)
    | ok id =>
      have hmention : nodeMention? j = some ⟨.null, ⟨.node, id⟩⟩ := by
        unfold nodeMention?
        rw [hj]
      rw [exists_forall₂_cons fun m => by rw [hmention, Option.some_inj, eq_comm]]
      simp only
      rw [bind_eq_ok]
      constructor
      · rintro ⟨s, hs, h⟩
        obtain ⟨ms, hms, rfl⟩ := ih.mp hs
        cases h
        exact ⟨ms, hms, rfl⟩
      · rintro ⟨ms, hms, rfl⟩
        exact ⟨_, ih.mpr ⟨ms, hms, rfl⟩, rfl⟩

theorem linkMembers_eq_ok {owner : Key} {d : Draft} {items : List Json}
    {r : List Member × Draft} : linkMembers owner d items = .ok r ↔
      ∃ ms, List.Forall₂ (fun j m => memberMention? j = some m) items ms ∧
        r = d.resolveAll ms := by
  induction items generalizing d r with
  | nil =>
    rw [exists_forall₂_nil]
    unfold linkMembers
    rw [Except.ok.injEq]
    exact eq_comm
  | cons j items ih =>
    unfold linkMembers
    cases hj : elementOf j with
    | none =>
      have hsilent : memberMention? j = none := by
        unfold memberMention?
        rw [hj]
      exact iff_of_false (fun h => nomatch h) (not_exists_forall₂_cons fun m hm => by
        rw [hsilent] at hm
        cases hm)
    | some e =>
      obtain ⟨kind, fields⟩ := e
      simp only
      cases hid : need fields "ref" >>= toInteger with
      | error e =>
        have hsilent : memberMention? j = none := by
          unfold memberMention?
          rw [hj]
          simp only [hid]
        exact iff_of_false (fun h => nomatch h) (not_exists_forall₂_cons fun m hm => by
          rw [hsilent] at hm
          cases hm)
      | ok id =>
        have hmention : memberMention? j = some ⟨orNull fields "role", ⟨kind, id⟩⟩ := by
          unfold memberMention?
          rw [hj]
          simp only [hid]
        rw [exists_forall₂_cons fun m => by rw [hmention, Option.some_inj, eq_comm]]
        simp only
        rw [bind_eq_ok]
        constructor
        · rintro ⟨s, hs, h⟩
          obtain ⟨ms, hms, rfl⟩ := ih.mp hs
          cases h
          exact ⟨ms, hms, rfl⟩
        · rintro ⟨ms, hms, rfl⟩
          exact ⟨_, ih.mpr ⟨ms, hms, rfl⟩, rfl⟩

/-- Linking an element attaches what its fields mention. -/
theorem linkOne_eq_ok {d d' : Draft} {owner : Key} {fields : Fields} :
    linkOne d owner fields = .ok d' ↔
      ∃ ms, Mentions owner.kind fields ms ∧ d' = d.attach owner ms := by
  unfold linkOne Mentions Draft.attach
  cases hk : owner.kind with
  | node =>
    constructor
    · intro h
      cases h
      exact ⟨[], rfl, rfl⟩
    · rintro ⟨ms, rfl, rfl⟩
      rfl
  | way =>
    simp only
    rw [bind_eq_ok]
    constructor
    · rintro ⟨items, hitems, h⟩
      obtain ⟨r, hr, h⟩ := bind_eq_ok.mp h
      obtain ⟨ms, hms, rfl⟩ := linkNodes_eq_ok.mp hr
      cases h
      exact ⟨ms, ⟨items, mapError_eq_ok.mp hitems, hms⟩, rfl⟩
    · rintro ⟨ms, ⟨items, hitems, hms⟩, rfl⟩
      exact ⟨items, mapError_eq_ok.mpr hitems,
        bind_eq_ok.mpr ⟨_, linkNodes_eq_ok.mpr ⟨ms, hms, rfl⟩, rfl⟩⟩
  | relation =>
    simp only
    rw [bind_eq_ok]
    constructor
    · rintro ⟨items, hitems, h⟩
      obtain ⟨r, hr, h⟩ := bind_eq_ok.mp h
      obtain ⟨ms, hms, rfl⟩ := linkMembers_eq_ok.mp hr
      cases h
      exact ⟨ms, ⟨items, mapError_eq_ok.mp hitems, hms⟩, rfl⟩
    · rintro ⟨ms, ⟨items, hitems, hms⟩, rfl⟩
      exact ⟨items, mapError_eq_ok.mpr hitems,
        bind_eq_ok.mpr ⟨_, linkMembers_eq_ok.mpr ⟨ms, hms, rfl⟩, rfl⟩⟩

/-- What elements refer to, attached to their objects in turn. -/
def Draft.attachAll (d : Draft) (es : List Element) : Draft :=
  es.foldl (fun d e => d.attach e.key e.mentions) d

/-- **The second reading attaches what each element mentions**, and it succeeds just if all elements
    can be read that far. -/
theorem link_eq_ok {d d' : Draft} {described : List (Kind × Fields)} {ps : List Primitive}
    (hps : List.Forall₂ (fun e p => attributes e.1 e.2 = .ok p) described ps) :
    link d (List.zipWith (fun p e => (p.key, e.2)) ps described) = .ok d' ↔
      ∃ es, List.Forall₂ Reads described es ∧ es.map Element.own = ps ∧ d' = d.attachAll es := by
  induction hps generalizing d with
  | nil =>
    constructor
    · intro h
      cases h
      exact ⟨[], .nil, rfl, rfl⟩
    · rintro ⟨es, hes, -, rfl⟩
      cases hes
      rfl
  | @cons e p described ps hp _ ih =>
    have hkind : p.key.kind = e.1 := (described_of_attributes hp).kind
    rw [List.zipWith_cons_cons, link, bind_eq_ok]
    constructor
    · rintro ⟨d₁, h₁, h⟩
      obtain ⟨ms, hms, rfl⟩ := linkOne_eq_ok.mp h₁
      obtain ⟨es, hes, rfl, rfl⟩ := ih.mp h
      exact ⟨⟨p, ms⟩ :: es, .cons ⟨hp, hkind ▸ hms⟩ hes, rfl, rfl⟩
    · rintro ⟨es, hes, hown, rfl⟩
      cases hes with
      | cons he hes =>
        obtain ⟨rfl, rfl⟩ := List.cons_eq_cons.mp hown
        exact ⟨_, linkOne_eq_ok.mpr ⟨_, hkind ▸ he.2, rfl⟩, ih.mpr ⟨_, hes, rfl, rfl⟩⟩

/-! ## 6. Loading -/

/-- The draft of elements that were read. -/
def draftOf (es : List Element) : Draft :=
  (({} : Draft).putAll (es.map Element.own)).attachAll es

/-- The map of elements that were read, and of a box. -/
def assembled (es : List Element) (bounds : Option Bounds) : Content :=
  (draftOf es).content bounds

/-- **A document is accepted just if its elements and its box can be read**, and then it is the map
    of these. -/
theorem load_eq_ok_iff {j : Json} {c : Content} : (load j).outcome = .ok c ↔
    ∃ items box es b, parts j = some (items, box) ∧ List.Forall₂ Reads (recognised items) es ∧
      readBounds box = .ok b ∧ c = assembled es b := by
  unfold load
  cases hj : parts j with
  | none => exact ⟨fun h => (nomatch h), fun ⟨_, _, _, _, h, _⟩ => nomatch h⟩
  | some x =>
    obtain ⟨items, box⟩ := x
    simp only
    cases hg : gather {} items with
    | mk g fault =>
      cases fault with
      | some e =>
        constructor
        · exact fun h => nomatch h
        · rintro ⟨_, _, es, b, h, hes, -, -⟩
          cases h
          rw [gather_eq_none.mpr ⟨_, owns_of_reads hes, rfl⟩] at hg
          cases hg
      | none =>
        obtain ⟨ps, hps, rfl⟩ := gather_eq_none.mp hg
        simp only
        unfold Gathered.content
        rw [bind_eq_ok]
        simp only [List.nil_append]
        constructor
        · rintro ⟨d, hd, h⟩
          obtain ⟨es, hes, rfl, rfl⟩ := (link_eq_ok hps).mp hd
          obtain ⟨b, hb, h⟩ := bind_eq_ok.mp h
          cases h
          exact ⟨items, box, es, b, rfl, hes, hb, rfl⟩
        · rintro ⟨_, _, es, b, h, hes, hb, rfl⟩
          cases h
          have hown : es.map Element.own = ps := owns_unique (owns_of_reads hes) hps
          subst hown
          exact ⟨_, (link_eq_ok hps).mpr ⟨es, hes, rfl, rfl⟩, bind_eq_ok.mpr ⟨b, hb, rfl⟩⟩

/-- The values that describe no object are those that warnings are about. -/
theorem unknown_of_load {j : Json} {c : Content} {items : List Json} {box : Json}
    (hj : parts j = some (items, box)) (h : (load j).outcome = .ok c) :
    (load j).unknown = unrecognised items := by
  unfold load at h ⊢
  rw [hj] at h ⊢
  simp only at h ⊢
  cases hg : gather {} items with
  | mk g fault =>
    rw [hg] at h
    cases fault with
    | some e => exact nomatch h
    | none =>
      obtain ⟨ps, -, rfl⟩ := gather_eq_none.mp hg
      rfl

end MapQuery.Document
