import MapQuery.Proofs.Command.Found
import MapQuery.Proofs.Json.Printed
import MapQuery.Proofs.Map.Record
import MapQuery.Proofs.Map.Refused

/-!
# Results loaded again

Results that are printed as JSON can be put into a document as its elements. Loading this gives
back the objects in the order in which they were printed, with the same records. Yet only clean
texts can be printed: where a half of a surrogate pair stands alone in a tag or in the name of an
editor, nothing is.

* `Excerpt` -- some objects of a map, each once;
* `excerpt_of_results` -- what a search finds is one;
* `clean_jsonText_iff` -- when results can be printed;
* `writable_featureJson`, `reads_printedFields` -- an object that is printed is read back, first as a
  value and then as an element;
* `resolve_reloaded` -- where the elements are distinct, loading them gives one object each;
* `results_reload` -- the results.
-/

namespace MapQuery.Command.Search

open Document (Content Element Fields Mentions Pictures Reads assembled elementOf keysOf lastOf load
  objectOf parts readBounds recognised unrecognised)

/-! ## 1. Results -/

/-- Some objects of a map, each once. -/
structure Excerpt (c : Content) (found : List Primitive) : Prop where
  mem : ∀ p ∈ found, ∃ h ∈ c.dataset.handles, c.graph.get? h = some p
  nodup : (found.map Primitive.key).Nodup

theorem select_sublist {g : Graph} {selection : Option (List Key)} {q : Predicate}
    {hs passing : List Handle} (h : g.select selection q hs = .ok passing) :
    passing.Sublist hs := by
  induction hs generalizing passing with
  | nil =>
    cases h
    exact List.Sublist.refl []
  | cons x r ih =>
    rw [Graph.select] at h
    obtain ⟨passes, -, h⟩ := bind_eq_ok.mp h
    obtain ⟨others, hothers, h⟩ := bind_eq_ok.mp h
    cases h
    cases passes with
    | true => exact (ih hothers).cons_cons x
    | false => exact (ih hothers).cons x

variable {c : Content} {es : List Element} {found : List Primitive} {p : Primitive}

/-- What stands at places from some place on, beside a list of as many. -/
theorem forall₂_filterMap_range' {α β : Type} {R : α → β → Prop} {f : Nat → Option β}
    {l : List α} {n : Nat} (h : ∀ i a, l[i]? = some a → ∃ b, f (n + i) = some b ∧ R a b) :
    List.Forall₂ R l ((List.range' n l.length).filterMap f) := by
  induction l generalizing n with
  | nil => exact .nil
  | cons a r ih =>
    obtain ⟨b, hb, hab⟩ := h 0 a rfl
    rw [Nat.add_zero] at hb
    rw [List.length_cons, List.range'_succ, List.filterMap_cons_some hb]
    refine .cons hab (ih fun i a' hi => ?_)
    rw [Nat.succ_add_eq_add_succ]
    exact h (i + 1) a' hi

/-- **The objects of a map stand in the order of its keys.** -/
theorem forall₂_resolve (hc : Pictures c es) {α : Type} {R : α → Primitive → Prop} {l : List α}
    (hlength : l.length = (keysOf es).length)
    (h : ∀ i a k p, l[i]? = some a → (keysOf es)[i]? = some k → c.graph.get? i = some p →
      p = { objectOf es k with referrers := p.referrers } → R a p) :
    List.Forall₂ R l (c.graph.resolve c.dataset.handles) := by
  unfold Graph.resolve
  rw [hc.handles, ← hlength, List.range_eq_range']
  refine forall₂_filterMap_range' fun i a hi => ?_
  rw [Nat.zero_add]
  have hlt : i < (keysOf es).length := hlength ▸ (List.getElem?_eq_some_iff.mp hi).1
  have hk := List.getElem?_eq_getElem hlt
  have hp := hc.object i
  rw [hk] at hp
  exact ⟨_, hp, h i a _ _ hi hk hp rfl⟩

theorem map_key_resolve (hc : Pictures c es) :
    (c.graph.resolve c.dataset.handles).map Primitive.key = keysOf es := by
  have hkeys : List.Forall₂ (fun k p => k = Primitive.key p) (keysOf es)
      (c.graph.resolve c.dataset.handles) :=
    forall₂_resolve hc rfl fun i k k' p hk hk' _ hp => by
      cases hk.symm.trans hk'
      rw [hp]
      exact (Document.key_objectOf k).symm
  have hmap : (keysOf es).map id = (c.graph.resolve c.dataset.handles).map Primitive.key :=
    map_eq_of_forall₂ hkeys fun _ _ h => h
  rw [← hmap, List.map_id]

/-- **What a search finds is an excerpt of the map**, whatever the view and the selection are. -/
theorem excerpt_of_results (hc : Pictures c es) {view : Option Bounds} {selected : List Key}
    {q : Predicate} {limit : Option Nat} (h : results
      { c with dataset := { c.dataset with view := view, selected := selected } } q limit =
        .ok found) : Excerpt c found := by
  unfold results at h
  obtain ⟨passing, hpassing, h⟩ := bind_eq_ok.mp h
  have hsub : passing.Sublist c.dataset.handles := select_sublist hpassing
  have hall : Excerpt c ((c.graph.resolve passing).mergeSort fun a b => a.key.le b.key) := by
    have hperm := List.mergeSort_perm (c.graph.resolve passing) fun a b => a.key.le b.key
    refine ⟨fun p hp => ?_, ?_⟩
    · obtain ⟨x, hx, hp⟩ := List.mem_filterMap.mp (hperm.mem_iff.mp hp)
      exact ⟨x, hsub.subset hx, hp⟩
    · have hkeys : ((c.graph.resolve passing).map Primitive.key).Sublist (keysOf es) := by
        rw [← map_key_resolve hc]
        exact (hsub.filterMap c.graph.get?).map Primitive.key
      exact (hperm.map Primitive.key).nodup_iff.mpr ((nodup_eraseDups _).sublist hkeys)
  cases limit with
  | none =>
    cases h
    exact hall
  | some n =>
    cases h
    exact ⟨fun p hp => hall.mem p (List.mem_of_mem_take hp),
      hall.nodup.sublist ((List.take_sublist n _).map Primitive.key)⟩

/-! ## 2. An object -/

/-- A name, or none. -/
def IsName (user : Json) : Prop := user = .null ∨ ∃ name, user = .str name

theorem writable_of_isName {user : Json} (h : IsName user) (hclean : ∀ w ∈ user.texts, w.Clean) :
    user.Writable := by
  rcases h with rfl | ⟨name, rfl⟩
  · exact .null
  · obtain ⟨name, rfl⟩ := Rough.clean_iff.mp (hclean name List.mem_cons_self)
    exact .str name

/-- What is printed of a time. -/
def timeJson : Option Calendar.Moment → Json
  | some t => .str t.isoText
  | none => .null

/-- The texts that an object has from the document: the name of its editor, and its tags. -/
def textsOf (p : Primitive) : List Rough :=
  p.user.texts ++ p.tags.given.flatMap fun e => [e.1, e.2]

/-- The texts in what is printed of tags. -/
theorem fieldTexts_tags (given : List (Rough × Rough)) :
    Json.fieldTexts (given.map fun e => (e.1, .str e.2)) = given.flatMap fun e => [e.1, e.2] := by
  induction given with
  | nil => rfl
  | cons e r ih =>
    rw [List.map_cons, Json.fieldTexts, ih]
    rfl

theorem itemTexts_eq (items : List Json) : Json.itemTexts items = items.flatMap Json.texts := by
  induction items with
  | nil => rfl
  | cons j r ih => rw [Json.itemTexts, ih, List.flatMap_cons]

/-- What is printed of an object. -/
def printedFields (p : Primitive) : Fields :=
  [("type", .str p.kind.name), ("id", .int p.id), ("version", .int p.version),
    ("changeset", .int p.changeset), ("user", p.user),
    ("timestamp", timeJson p.timestamp),
    ("tags", .obj (p.tags.given.map fun e => (e.1, .str e.2)))]

/-- What is printed of an object is clean just if its texts are. -/
theorem clean_texts_featureJson :
    (∀ w ∈ (featureJson p).texts, w.Clean) ↔ ∀ w ∈ textsOf p, w.Clean := by
  have htime : ∀ time : Option Calendar.Moment, ∀ w ∈ (timeJson time).texts, w.Clean := by
    intro time w hw
    cases time with
    | none => cases hw
    | some t =>
      rw [List.mem_singleton.mp hw]
      exact Rough.clean_ofString _
  have htexts : (featureJson p).texts = Json.fieldTexts (printedFields p) := rfl
  rw [htexts, textsOf]
  simp only [printedFields, Json.fieldTexts, Json.texts, fieldTexts_tags, List.forall_mem_cons,
    List.forall_mem_append, Rough.clean_ofString, List.not_mem_nil, false_implies, implies_true,
    true_and, and_true]
  exact and_congr_right fun _ => and_iff_right (htime p.timestamp)

/-- **Results can be printed just if their texts are clean.** -/
theorem clean_jsonText_iff :
    (jsonText found).Clean ↔ ∀ p ∈ found, ∀ w ∈ textsOf p, w.Clean := by
  unfold jsonText Json.toIndented
  rw [Rough.clean_append, and_iff_left (Rough.clean_ofString _), Json.clean_print_iff, Json.texts,
    itemTexts_eq, List.flatMap_map, List.forall_mem_flatMap]
  exact forall₂_congr fun p _ => clean_texts_featureJson

/-- **An object whose texts are clean is printed without loss.** -/
theorem writable_featureJson (hp : p.Sound) (huser : IsName p.user)
    (hclean : ∀ w ∈ textsOf p, w.Clean) : (featureJson p).Writable := by
  obtain ⟨hname, hgiven⟩ := List.forall_mem_append.mp hclean
  have hboth : ∀ e ∈ p.tags.given, e.1.Clean ∧ e.2.Clean := fun e he =>
    ⟨hgiven _ (List.mem_flatMap.mpr ⟨e, he, List.mem_cons_self⟩),
      hgiven _ (List.mem_flatMap.mpr ⟨e, he, List.mem_cons_of_mem _ List.mem_cons_self⟩)⟩
  have htime : (timeJson p.timestamp).Writable := by
    cases p.timestamp with
    | some t => exact .str _
    | none => exact .null
  have htags : Json.Writable (.obj (p.tags.given.map fun e => (e.1, .str e.2))) := by
    refine .obj ?_ (List.forall_mem_map.mpr fun e he => (hboth e he).1)
      (List.forall_mem_map.mpr fun e he => ?_)
    · rw [List.map_map]
      exact hp.tags
    · obtain ⟨value, hvalue⟩ := Rough.clean_iff.mp (hboth e he).2
      rw [hvalue]
      exact .str value
  have hnames : (["type", "id", "version", "changeset", "user", "timestamp", "tags"] :
      List Rough).Nodup := by decide
  refine .obj hnames ?_ ?_
  · simp [Rough.clean_ofString]
  · simp only [List.forall_mem_cons]
    exact ⟨.str _, .int hp.id, .int hp.version, .int hp.changeset, writable_of_isName huser hname,
      htime, htags, List.forall_mem_nil _⟩

/-- What an object says of itself, without what it refers to. -/
def recordOf (p : Primitive) : Primitive :=
  { id := p.id, tags := p.tags, version := p.version, changeset := p.changeset,
    timestamp := p.timestamp, user := p.user, shape := Shape.blank p.kind }

theorem sameRecord_recordOf (p : Primitive) : p.SameRecord (recordOf p) :=
  ⟨(Shape.kind_blank p.kind).symm, rfl, rfl, rfl, rfl, rfl, rfl⟩

theorem toTexts_tags (given : List (Rough × Rough)) :
    Field.toTexts (.obj (given.map fun e => (e.1, .str e.2))) = .ok given := by
  cases given with
  | nil => rfl
  | cons e r =>
    show Except.ok (((e :: r).map fun e => (e.1, Json.str e.2)).map fun f =>
      (f.1, f.2.plainText)) = _
    rw [List.map_map]
    exact congrArg Except.ok (List.map_id _)

theorem toTime_printed (time : Option Calendar.Moment) :
    (∀ t ∈ time, t.Valid) → Field.toTime (timeJson time) = .ok time := by
  intro h
  cases time with
  | none => rfl
  | some t =>
    have hplain : (Json.str t.isoText).plainText = t.isoText := rfl
    unfold timeJson Field.toTime
    dsimp only
    rw [hplain, Calendar.readIso_isoText (h t rfl)]

theorem elementOf_featureJson (p : Primitive) :
    elementOf (featureJson p) = some (p.kind, printedFields p) := by
  have hkind : Document.kindOf (featureJson p) = some p.kind :=
    (Kind.ofName_eq_some_iff _ _).mpr rfl
  unfold Document.elementOf
  rw [hkind]
  rfl

theorem attributes_printedFields (hp : p.Sound) :
    Document.attributes p.kind (printedFields p) = .ok (recordOf p) := by
  have htime := toTime_printed p.timestamp hp.timestamp
  have htexts := toTexts_tags p.tags.given
  have htags := Tags.ofList_of_nodup hp.tags
  have huser : (if p.user.isEmptyLike then .null else p.user) = p.user := by
    split
    · next h => exact (hp.user h).symm
    · rfl
  have hmade : { recordOf p with
      tags := Tags.ofList p.tags.given
      user := if p.user.isEmptyLike then .null else p.user } = recordOf p := by
    rw [htags, huser]
    rfl
  refine bind_bind_eq_ok.mpr ⟨p.id, rfl, bind_eq_ok.mpr ⟨p.tags.given, htexts,
    bind_eq_ok.mpr ⟨p.version, rfl, bind_eq_ok.mpr ⟨p.changeset, rfl,
      bind_eq_ok.mpr ⟨p.timestamp, htime, ?_⟩⟩⟩⟩⟩
  rw [← hmade]
  unfold recordOf
  cases p.kind with
  | node => rfl
  | way => rfl
  | relation => rfl

/-- **An object that is printed is read as an element with its record**, which mentions nothing. -/
theorem reads_printedFields (hp : p.Sound) :
    Reads (p.kind, printedFields p) ⟨recordOf p, []⟩ := by
  refine ⟨attributes_printedFields hp, ?_⟩
  show Mentions p.kind (printedFields p) []
  cases p.kind with
  | node => rfl
  | way => exact ⟨[], rfl, .nil⟩
  | relation => exact ⟨[], rfl, .nil⟩

/-! ## 3. Results loaded again -/

/-- The elements that results are read as. -/
def elementsOf (found : List Primitive) : List Element := found.map fun p => ⟨recordOf p, []⟩

theorem map_key_elementsOf (found : List Primitive) :
    (elementsOf found).map Element.key = found.map Primitive.key := by
  unfold elementsOf
  rw [List.map_map]
  exact List.map_congr_left fun p _ => (sameRecord_recordOf p).key.symm

/-- **Printed results are read as their elements**, and no value is left out. -/
theorem reads_printed (hfound : ∀ p ∈ found, p.Sound) :
    List.Forall₂ Reads (recognised (found.map featureJson)) (elementsOf found) ∧
      unrecognised (found.map featureJson) = [] := by
  have hrec : recognised (found.map featureJson) =
      found.map fun p => (p.kind, printedFields p) := by
    unfold Document.recognised
    rw [List.filterMap_map]
    exact List.filterMap_eq_map_iff_forall_eq_some.mpr fun p _ => elementOf_featureJson p
  refine ⟨?_, ?_⟩
  · rw [hrec]
    unfold elementsOf
    rw [List.forall₂_map_left_iff, List.forall₂_map_right_iff, List.forall₂_same]
    exact fun p hp => reads_printedFields (hfound p hp)
  · unfold Document.unrecognised
    rw [List.filter_eq_nil_iff, List.forall_mem_map]
    intro p _
    rw [elementOf_featureJson]
    exact Bool.false_ne_true

theorem keysOf_elementsOf (hkeys : (found.map Primitive.key).Nodup) :
    keysOf (elementsOf found) = found.map Primitive.key := by
  have htargets : (elementsOf found).flatMap Element.targets = [] :=
    List.flatMap_eq_nil_iff.mpr fun e he => by
      obtain ⟨p, -, rfl⟩ := List.mem_map.mp he
      rfl
  unfold Document.keysOf
  rw [htargets, List.append_nil, map_key_elementsOf]
  exact eraseDups_of_nodup hkeys

/-- Under the key of a result stands its record. -/
theorem sameRecord_objectOf (hkeys : (found.map Primitive.key).Nodup) (hp : p ∈ found) :
    p.SameRecord (objectOf (elementsOf found) p.key) := by
  unfold Document.objectOf
  cases hlast : lastOf (elementsOf found) p.key with
  | none =>
    have hother := Document.lastOf_eq_none_iff.mp hlast
    rw [map_key_elementsOf] at hother
    exact absurd (List.mem_map_of_mem hp) hother
  | some e =>
    obtain ⟨he, hkey⟩ := Document.lastOf_mem hlast
    obtain ⟨p', hp', rfl⟩ := List.mem_map.mp he
    have hsame : p'.key = p.key := (sameRecord_recordOf p').key.trans hkey
    cases List.inj_on_of_nodup_map hkeys hp' hp hsame
    exact (sameRecord_recordOf p).trans (Primitive.sameRecord_linked _ _ _)

/-- **Where the elements are distinct, loading them gives one object each, in their order.** -/
theorem resolve_reloaded (hkeys : (found.map Primitive.key).Nodup)
    (hc : Pictures c (elementsOf found)) :
    List.Forall₂ Primitive.SameRecord found (c.graph.resolve c.dataset.handles) := by
  have hall := keysOf_elementsOf hkeys
  refine forall₂_resolve hc (by rw [hall, List.length_map]) fun i p k p' hp hk _ hp' => ?_
  rw [hall, List.getElem?_map, hp] at hk
  cases hk
  rw [hp']
  exact (sameRecord_objectOf hkeys (List.mem_of_getElem? hp)).trans
    (Primitive.sameRecord_referrers _ _)

/-- Results that are printed as JSON are written as they are, or not at all. -/
theorem printResults_json {m : Type → Type} [Monad m] {mode : Mode} {r : Request}
    (hr : r.format = .json) : (printResults mode r found : Work m Unit) = write (jsonText found) := by
  unfold printResults
  rw [hr]

/-- **Results printed as JSON load back, if they can be printed.** What a search of a file finds are
    objects of its map, each once. Where editors are names or none, printing any such objects as
    JSON ends in one of two ways, depending on the names of their editors and on their tags. If
    these are clean, a list of values is written; and a document with these as its elements, and
    with a box that can be read if it has one, is accepted without a warning. It gives the same
    records in the order in which they were printed. If one of them is not clean, nothing is
    written, and the fault is one of encoding. -/
theorem results_reload {path : Path} {s : Stored} {c : Content}
    (hc : (Document.ofStored path s).1 = .ok c)
    (huser : ∀ h p, c.graph.get? h = some p → IsName p.user) {m : Type → Type} [Monad m] :
    (∀ view selected q limit found, results
        { c with dataset := { c.dataset with view := view, selected := selected } } q limit =
          .ok found → Excerpt c found) ∧
      ∀ found, Excerpt c found →
        ((∀ p ∈ found, ∀ w ∈ textsOf p, w.Clean) → ∃ text items,
          (∀ mode r, r.format = .json → (printResults mode r found : Work m Unit) =
            modify fun o => { o with out := o.out ++ text }) ∧
          Json.read text = .ok (.arr items) ∧
          ∀ j box b, parts j = some (items, box) → readBounds box = .ok b →
            ∃ c', load j = ⟨.ok c', []⟩ ∧
              List.Forall₂ Primitive.SameRecord found (c'.graph.resolve c'.dataset.handles)) ∧
        ((∃ p ∈ found, ∃ w ∈ textsOf p, ¬ w.Clean) → ∃ e : Rough.Fault,
          ∀ mode r, r.format = .json → (printResults mode r found : Work m Unit) =
            throw (.crash ⟨"UnicodeEncodeError", e.message⟩)) := by
  obtain ⟨j₀, hbounded, hload⟩ := Document.load_of_ofStored hc
  obtain ⟨-, -, es, -, -, -, -, -, hpict, -⟩ := Document.pictures_of_load hload
  refine ⟨fun _ _ _ _ _ => excerpt_of_results hpict, fun found hfound => ⟨fun hclean => ?_, ?_⟩⟩
  · have hsound : ∀ p ∈ found, p.Sound ∧ IsName p.user := fun p hp => by
      obtain ⟨h, -, hp⟩ := hfound.mem p hp
      exact ⟨Document.sound_of_load hbounded hload hp, huser h p hp⟩
    have hwritable : (Json.arr (found.map featureJson)).Writable :=
      .arr (List.forall_mem_map.mpr fun p hp =>
        writable_featureJson (hsound p hp).1 (hsound p hp).2 (hclean p hp))
    obtain ⟨hreads, hrest⟩ := reads_printed fun p hp => (hsound p hp).1
    obtain ⟨text, htext⟩ := Rough.clean_iff.mp (clean_jsonText_iff.mpr hclean)
    have hread : Json.read (jsonText found).plain = .ok (.arr (found.map featureJson)) :=
      Json.read_print Json.plain_indented hwritable (List.forall_mem_singleton.mpr rfl)
    rw [htext] at hread
    refine ⟨text, found.map featureJson, fun mode r hr => ?_, hread, fun j box b hj hb => ?_⟩
    · rw [printResults_json hr, htext]
      rfl
    · have hok : (load j).outcome = .ok (assembled (elementsOf found) b) :=
        Document.load_eq_ok_iff.mpr ⟨_, box, _, b, hj, hreads, hb, rfl⟩
      have hunknown : (load j).unknown = [] := (Document.unknown_of_load hj hok).trans hrest
      have hplain : ∀ e ∈ elementsOf found, e.Plain := fun e he => by
        obtain ⟨_, -, hread⟩ := Document.exists_of_mem_right hreads he
        exact hread.plain
      obtain ⟨hpict', -⟩ := Document.assembled_pictures hplain b
      refine ⟨_, ?_, resolve_reloaded hfound.nodup hpict'⟩
      rw [← hok, ← hunknown]
  · intro htorn
    obtain ⟨p, hp, w, hw, hne⟩ := htorn
    obtain ⟨e, he⟩ := Rough.encode_of_not_clean fun hclean =>
      hne (clean_jsonText_iff.mp hclean p hp w hw)
    refine ⟨e, fun mode r hr => ?_⟩
    rw [printResults_json hr]
    unfold write writeAdvised
    rw [he]
    dsimp only
    rw [← Rough.ofString_append, String.append_empty]

/-- Everything on a map is found if all is asked for. -/
theorem results_always {j : Json} (hload : (load j).outcome = .ok c) : results
    { c with dataset := { c.dataset with view := none, selected := [] } } .always none =
      .ok ((c.graph.resolve c.dataset.handles).mergeSort fun a b => a.key.le b.key) := by
  obtain ⟨-, -, es, -, -, -, -, -, hc, -⟩ := Document.pictures_of_load hload
  have hall : ∀ h ∈ c.dataset.handles, c.graph.holds (some []) .always h = .ok true :=
    fun h hh => by
      obtain ⟨p, hp⟩ := hc.mem_handles_iff.mp hh
      rw [Graph.holds_of_get? hp, Graph.holdsAt]
  have hselect : c.graph.select (some []) .always c.dataset.handles = .ok c.dataset.handles := by
    rw [Graph.select_eq fun h hh => ⟨true, hall h hh⟩,
      List.filter_eq_self.mpr fun h hh => Graph.passes_iff.mpr (hall h hh)]
  exact bind_eq_ok.mpr ⟨_, hselect, rfl⟩

/-- Editors of all objects are names or none if that is so of those in the order of the map. -/
theorem isName_of_users {j : Json} (hload : (load j).outcome = .ok c)
    (husers : ∀ user ∈ (c.graph.resolve c.dataset.handles).map Primitive.user, IsName user) :
    ∀ h p, c.graph.get? h = some p → IsName p.user := by
  intro h p hp
  obtain ⟨-, -, es, -, -, -, -, -, hc, -⟩ := Document.pictures_of_load hload
  exact husers _ (List.mem_map_of_mem
    (List.mem_filterMap.mpr ⟨h, hc.mem_handles_iff.mpr ⟨p, hp⟩, hp⟩))

/-- Objects whose editors and tags are clean. -/
theorem clean_textsOf (husers : ∀ user ∈ found.map Primitive.user, ∀ w ∈ user.texts, w.Clean)
    (htags : ∀ tags ∈ found.map Primitive.tags,
      ∀ w ∈ tags.given.flatMap fun e => [e.1, e.2], w.Clean) :
    ∀ p ∈ found, ∀ w ∈ textsOf p, w.Clean :=
  fun _ hp => List.forall_mem_append.mpr
    ⟨husers _ (List.mem_map_of_mem hp), htags _ (List.mem_map_of_mem hp)⟩

/-- A way with an editor and a tag that are escaped in print, and a time with a fraction and an
    offset. -/
def escapedWay : Json :=
  .obj [("type", .str "way"), ("id", .int (-3)), ("nodes", .arr [.int 7]),
    ("user", .str "\x01\"é"), ("timestamp", .str "2024-02-29T23:59:59.5+05:30"),
    ("tags", .obj [("b", .str "\\"), ("a", .str "")])]

/-- A half of a surrogate pair alone. -/
def loneHalf : Rough := { head := "", tail := [(⟨0, by decide⟩, "")] }

/-- A node with such a half for a name. -/
def tornNode : Json :=
  .obj [("type", .str "node"), ("id", .int 1), ("tags", .obj [("name", .str loneHalf)])]

set_option maxRecDepth 4000 in
/-- Such a way, and a node of which only its number is known, are printed and loaded again. Such a
    node is not printed. -/
theorem results_reload_way :
    let way := ("\x7b\"elements\":[\x7b\"type\":\"way\",\"id\":-3,\"nodes\":[7]," ++
      "\"user\":\"\\u0001\\\"é\",\"timestamp\":\"2024-02-29T23:59:59.5+05:30\"," ++
      "\"tags\":\x7b\"b\":\"\\\\\",\"a\":\"\"\x7d\x7d]\x7d").toList
    let node := ("\x7b\"elements\":[\x7b\"type\":\"node\",\"id\":1," ++
      "\"tags\":\x7b\"name\":\"\\ud800\"\x7d\x7d]\x7d").toList
    let holds (chars : List Char) (c : Content) := (Document.ofStored (Path.ofText "map.json")
      (.file (chars.flatMap String.utf8EncodeChar))).1 = .ok c
    let finds (c : Content) (found : List Primitive) := results
      { c with dataset := { c.dataset with view := none, selected := [] } } .always none = .ok found
    let prints (found : List Primitive) : Work Id Unit :=
      printResults {} { query := "", format := .json } found
    (∃ c found text items c', holds way c ∧ (∀ h p, c.graph.get? h = some p → IsName p.user) ∧
      finds c found ∧ found.Perm (c.graph.resolve c.dataset.handles) ∧
      c.dataset.entries.map Prod.fst = [⟨.way, -3⟩, ⟨.node, 7⟩] ∧
      prints found = (modify fun o => { o with out := o.out ++ text }) ∧
      Json.read text = .ok (.arr items) ∧ load (.obj [("elements", .arr items)]) = ⟨.ok c', []⟩ ∧
      List.Forall₂ Primitive.SameRecord found (c'.graph.resolve c'.dataset.handles)) ∧
    ∃ c found e, holds node c ∧ (∀ h p, c.graph.get? h = some p → IsName p.user) ∧
      finds c found ∧
      prints found = throw (.crash ⟨"UnicodeEncodeError", Rough.Fault.message e⟩) := by
  intro way node holds finds prints
  refine ⟨?_, ?_⟩
  · obtain ⟨c, hload, hkeys, husers, htags⟩ : ∃ c,
        (load (.obj [("elements", .arr [escapedWay])])).outcome = .ok c ∧
        c.dataset.entries.map Prod.fst = [⟨.way, -3⟩, ⟨.node, 7⟩] ∧
        (c.graph.resolve c.dataset.handles).map Primitive.user = [.str "\x01\"é", .null] ∧
        (c.graph.resolve c.dataset.handles).map Primitive.tags =
          [⟨[("b", "\\"), ("a", "")]⟩, {}] :=
      ⟨_, rfl, rfl, rfl, rfl⟩
    have hchars : Json.readChars (Text.unifyLineEnds way) =
        .ok (.obj [("elements", .arr [escapedWay])]) := by
      simp only [way, String.toList_append, String.reduceToList, List.cons_append, List.nil_append]
      rfl
    have hc : holds way c := Document.ofStored_of_chars _ hchars hload
    have huser := isName_of_users hload (by rw [husers]; simp [IsName])
    have hclean : ∀ p ∈ c.graph.resolve c.dataset.handles, ∀ w ∈ textsOf p, w.Clean := by
      refine clean_textsOf ?_ ?_
      · rw [husers]
        simp [Json.texts]
      · rw [htags]
        decide
    obtain ⟨hfound, hreload⟩ := results_reload (m := Id) hc huser
    have hresults := results_always hload
    obtain ⟨text, items, hprint, hread, hitems⟩ := (hreload _ (hfound _ _ _ _ _ hresults)).1
      fun p hp => hclean p (List.mem_mergeSort.mp hp)
    obtain ⟨c', hload', hsame⟩ := hitems (.obj [("elements", .arr items)]) .null none rfl rfl
    exact ⟨c, _, text, items, c', hc, huser, hresults, List.mergeSort_perm _ _, hkeys,
      hprint _ _ rfl, hread, hload', hsame⟩
  · obtain ⟨c, hload, husers, htags⟩ : ∃ c,
        (load (.obj [("elements", .arr [tornNode])])).outcome = .ok c ∧
        (c.graph.resolve c.dataset.handles).map Primitive.user = [.null] ∧
        (c.graph.resolve c.dataset.handles).map Primitive.tags = [⟨[("name", loneHalf)]⟩] :=
      ⟨_, rfl, rfl, rfl⟩
    have hchars : Json.readChars (Text.unifyLineEnds node) =
        .ok (.obj [("elements", .arr [tornNode])]) := by
      simp only [node, String.toList_append, String.reduceToList, List.cons_append, List.nil_append]
      rfl
    have hc : holds node c := Document.ofStored_of_chars _ hchars hload
    have huser := isName_of_users hload (by rw [husers]; simp [IsName])
    obtain ⟨hfound, hreload⟩ := results_reload (m := Id) hc huser
    have hresults := results_always hload
    obtain ⟨p, hp, hown⟩ : ∃ p ∈ c.graph.resolve c.dataset.handles,
        p.tags = ⟨[("name", loneHalf)]⟩ := by
      rw [← List.mem_map, htags]
      exact List.mem_singleton_self _
    have htorn : loneHalf ∈ textsOf p := by
      unfold textsOf
      rw [hown]
      simp
    obtain ⟨e, hprint⟩ := (hreload _ (hfound _ _ _ _ _ hresults)).2
      ⟨p, List.mem_mergeSort.mpr hp, loneHalf, htorn, by decide⟩
    exact ⟨c, _, e, hc, huser, hresults, hprint _ _ rfl⟩

end MapQuery.Command.Search
