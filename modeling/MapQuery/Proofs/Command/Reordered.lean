import MapQuery.Proofs.Command.Found

/-!
# Searching a document in another order

A search reads a map, and what it then does depends on the keys and the objects of the map alone. So
it is the same search if the elements of the document are put in another order.

* `Holds` -- a file holds a document;
* `Faultless` -- no object has a fault in the search that a request comes to;
* `runIn_reordered` -- searching either of two maps of the same elements is the same;
* `load_order_irrelevant` -- the order of elements does not matter, to loading nor to searching.
-/

namespace MapQuery

/-- At a path stands a file that holds a JSON document. -/
def Stored.Holds (there : Stored) (j : Json) : Prop :=
  ∃ bytes text, there = .file bytes ∧ Text.Utf8.decode bytes = .ok text ∧
    Json.read (String.ofList (Text.unifyLineEnds text.toList)) = .ok j

/-- A file holds what its characters say. -/
theorem Stored.holds_of_chars {bytes : List UInt8} (chars : List Char) {j : Json}
    (hchars : Text.Utf8.decodeFrom bytes.length 0 bytes [] = .ok chars)
    (hj : Json.readChars (Text.unifyLineEnds chars) = .ok j) : (Stored.file bytes).Holds j := by
  refine ⟨bytes, String.ofList chars, rfl, ?_, ?_⟩
  · unfold Text.Utf8.decode
    rw [hchars]
    rfl
  · unfold Json.read
    rw [String.toList_ofList, String.toList_ofList, hj]

namespace Command.Search

open Document (Content Element Reordering Reordered DistinctKeys load)

/-! ## 1. What a request comes to -/

/-- The box that is asked for as the view, if the text that gives it can be read. -/
def viewBox (r : Request) : Option (Option Bounds) :=
  match r.view.map Bounds.read with
  | none => some none
  | some (.ok b) => some (some b)
  | some (.error _) => none

/-- The keys of the references that name objects of the data set, if all are references. -/
def selectedKeys (d : DataSet) : List String → Option (List Key)
  | [] => some []
  | ref :: rest =>
    match Key.ofReference ref with
    | none => none
    | some k =>
      if (d.get? k).isSome then (selectedKeys d rest).map (k :: ·) else selectedKeys d rest

/-- No object of the map has a fault in the search that a request comes to. -/
def Faultless (options : TextOptions) (now : Int) (r : Request) (c : Content) : Prop :=
  ∀ view selected p, viewBox r = some view → selectedKeys c.dataset r.selected = some selected →
    (Query.compile { options := options, context := some ⟨c.dataset.bounds, view⟩, now := now }
      r.query).outcome = .ok p →
    ∀ h ∈ c.dataset.handles, ∃ b, c.graph.holds (some selected) p h = .ok b

/-! ## 2. Steps of a search -/

/-- The map of a file that holds a document is the map of the document. -/
theorem loaded_eq {m : Type → Type} [Monad m] {j : Json} {c : Content} {there : Stored}
    (hj : (load j).outcome = .ok c) (hholds : there.Holds j) (file : Path) :
    (loaded file there : Work m Content) = pure c := by
  obtain ⟨bytes, text, rfl, htext, hread⟩ := hholds
  have hstored : (Document.ofStored file (.file bytes)).1 = .ok c := by
    unfold Document.ofStored Stored.bytes
    simp only
    rw [htext]
    simp only
    unfold Document.ofText
    rw [hread]
    simp only
    rw [hj]
    rfl
  unfold loaded
  rw [hstored]

section Steps

variable {m : Type → Type} [Monad m] [LawfulMonad m] {α β : Type}

/-- Nothing follows the end of a command. -/
theorem throw_bind (e : Stop) (f : α → Work m β) : ((throw e : Work m α) >>= f) = throw e := by
  refine ExceptT.ext ?_
  rw [ExceptT.run_bind]
  show ((pure (Except.error e) : StateT Output m (Except Stop α)) >>= _) = pure (Except.error e)
  rw [pure_bind]

theorem fail_bind (code : Nat) (message : Rough) (f : α → Work m β) :
    ((fail code message : Work m α) >>= f) = fail code message := by
  unfold fail
  rw [bind_assoc]
  simp only [throw_bind]

theorem viewOf_bind_congr {r : Request} {f f' : Option Bounds → Work m β}
    (h : ∀ view, viewBox r = some view → f view = f' view) :
    (viewOf r >>= f) = viewOf r >>= f' := by
  unfold viewOf
  unfold viewBox at h
  cases hb : r.view.map Bounds.read with
  | none =>
    rw [hb] at h
    simp only
    rw [pure_bind, pure_bind, h _ rfl]
  | some read =>
    rw [hb] at h
    cases read with
    | ok b =>
      simp only
      rw [pure_bind, pure_bind, h _ rfl]
    | error e =>
      simp only
      rw [fail_bind, fail_bind]

/-- **What follows a selection depends on the keys that are selected.** -/
theorem selection_bind_congr {d : DataSet} {refs : List String} {f f' : List Key → Work m β}
    (h : ∀ ks, selectedKeys d refs = some ks → f ks = f' ks) :
    (selection d refs >>= f) = selection d refs >>= f' := by
  induction refs generalizing f f' with
  | nil =>
    unfold selection
    rw [pure_bind, pure_bind, h [] rfl]
  | cons ref rest ih =>
    unfold selection
    unfold selectedKeys at h
    cases hk : Key.ofReference ref with
    | none =>
      simp only
      rw [throw_bind, throw_bind]
    | some k =>
      rw [hk] at h
      simp only at h ⊢
      cases hd : (d.get? k).isSome with
      | true =>
        rw [hd, if_pos rfl] at h
        rw [if_pos rfl, bind_assoc, bind_assoc]
        refine ih fun ks hks => ?_
        rw [pure_bind, pure_bind, h _ (by rw [hks]; rfl)]
      | false =>
        rw [hd, if_neg Bool.false_ne_true] at h
        rw [if_neg Bool.false_ne_true, bind_assoc, bind_assoc]
        exact bind_congr fun _ => ih h

theorem compiled_bind_congr {setting : Query.Setting} {query : String} {f f' : Predicate → Work m β}
    (h : ∀ p, (Query.compile setting query).outcome = .ok p → f p = f' p) :
    (compiled setting query >>= f) = compiled setting query >>= f' := by
  unfold compiled
  cases hp : (Query.compile setting query).outcome with
  | ok p =>
    simp only
    rw [pure_bind, pure_bind, h p hp]
  | error e =>
    simp only
    split
    · rw [fail_bind, fail_bind]
    · rw [throw_bind, throw_bind]

end Steps

/-! ## 3. Both searches -/

variable {c c' : Content} {es es' : List Element}

theorem isSome_get?_iff (h : Reordering c c' es es') (k : Key) :
    (c.dataset.get? k).isSome = (c'.dataset.get? k).isSome := by
  have hmem : ∀ {c : Content} {es : List Element}, Document.Pictures c es →
      ((c.dataset.get? k).isSome = true ↔ k ∈ Document.keysOf es) := by
    intro c es hc
    rw [Option.isSome_iff_exists]
    simp only [hc.get?_eq_some_iff]
    exact ⟨fun ⟨_, hx⟩ => hc.mem_keysOf hx, fun hk => hc.exists_keyAt hk⟩
  rw [Bool.eq_iff_iff, hmem h.left, hmem h.right, h.mem_keysOf_iff]

theorem size_eq (h : Reordering c c' es es') : c.dataset.size = c'.dataset.size := by
  unfold DataSet.size
  rw [h.left.entries, h.right.entries, List.length_zipIdx, List.length_zipIdx,
    h.keysOf_perm.length_eq]

variable {m : Type → Type} [Monad m]

/-- Selecting asks a data set only which keys it has. -/
theorem selection_congr {d d' : DataSet} (hd : ∀ k, (d.get? k).isSome = (d'.get? k).isSome)
    (refs : List String) : (selection d refs : Work m (List Key)) = selection d' refs := by
  induction refs with
  | nil => rfl
  | cons ref rest ih =>
    unfold selection
    rw [ih]
    simp only [hd]

theorem selectedKeys_congr {d d' : DataSet} (hd : ∀ k, (d.get? k).isSome = (d'.get? k).isSome)
    (refs : List String) : selectedKeys d refs = selectedKeys d' refs := by
  induction refs with
  | nil => rfl
  | cons ref rest ih =>
    unfold selectedKeys
    rw [ih]
    simp only [hd]

/-- What is done with what was found. -/
def report (mode : Mode) (r : Request) : Except MatchFault (List Primitive) → Work m Unit
  | .error e => throw (.crash ⟨e.kind, e.message⟩)
  | .ok [] => do if !mode.quiet then info ("No results for: " ++ r.query)
  | .ok found => printResults mode r found

/-- What is done when the map is loaded. -/
def searched (mode : Mode) (options : TextOptions) (now : Int) (r : Request)
    (view : Option Bounds) (c : Content) : Work m Unit := do
  let dataset := { c.dataset with view := view, selected := ← selection c.dataset r.selected }
  let p ← compiled { options := options, context := contextOf dataset, now := now } r.query
  if r.explain then info ("Compiled: " ++ p.display)
  report mode r (results { c with dataset := dataset } p r.limit)

/-- A search loads the map, and goes on from there. -/
theorem runIn_eq (mode : Mode) (options : TextOptions) (now : Int) (r : Request) (file : Path)
    (there : Stored) : (runIn mode options now r file there : Work m Unit) =
      (do
        let view ← viewOf r
        let c ← loaded file there
        if mode.verbose then
          info ("Loaded " ++ toString c.dataset.size ++ " features from " ++ file.text)
        searched mode options now r view c) :=
  rfl

/-- **What is reported of the same objects is the same.** -/
theorem report_alike {R : Handle → Handle → Prop} {found found' : List Primitive} (mode : Mode)
    (r : Request) (h : List.Forall₂ (Primitive.Alike R) found found') :
    (report mode r (.ok found) : Work m Unit) = report mode r (.ok found') := by
  have hprinted : (printResults mode r found : Work m Unit) = printResults mode r found' :=
    printResults_alike mode r h
  cases h with
  | nil => rfl
  | cons _ _ => exact hprinted

/-- Where no object has a fault, the results are what is found, cut at the limit. -/
theorem results_eq {c : Content} {p : Predicate} (limit : Option Nat)
    (hall : ∀ x ∈ c.dataset.handles,
      ∃ b, c.graph.holds (some c.dataset.selected) p x = .ok b) :
    results c p limit = .ok (match limit with
      | none => c.graph.found (some c.dataset.selected) p c.dataset.handles
      | some n => (c.graph.found (some c.dataset.selected) p c.dataset.handles).take n) := by
  unfold results
  rw [Graph.select_eq hall]
  rfl

/-- **A limit leaves the same objects of both maps.** -/
theorem report_reordered (h : Reordering c c' es es') {view : Option Bounds} {selected : List Key}
    {p : Predicate} (mode : Mode) (r : Request)
    (hall : ∀ x ∈ c.dataset.handles, ∃ b, c.graph.holds (some selected) p x = .ok b)
    (hall' : ∀ y ∈ c'.dataset.handles, ∃ b, c'.graph.holds (some selected) p y = .ok b) :
    (report mode r (results { c with
      dataset := { c.dataset with view := view, selected := selected } } p r.limit) :
        Work m Unit) =
      report mode r (results { c' with
        dataset := { c'.dataset with view := view, selected := selected } } p r.limit) := by
  have halike := h.found_alike hall hall'
  rw [results_eq r.limit hall, results_eq r.limit hall']
  cases r.limit with
  | none => exact report_alike mode r halike
  | some n => exact report_alike mode r (List.forall₂_take n halike)

variable [LawfulMonad m] {mode : Mode} {options : TextOptions} {now : Int} {r : Request}

theorem searched_reordered (h : Reordering c c' es es')
    (hbounds : c.dataset.bounds = c'.dataset.bounds) {view : Option Bounds}
    (hview : viewBox r = some view) (hf : Faultless options now r c)
    (hf' : Faultless options now r c') :
    (searched mode options now r view c : Work m Unit) =
      searched mode options now r view c' := by
  unfold searched
  rw [← selection_congr (isSome_get?_iff h)]
  refine selection_bind_congr fun selected hselected => ?_
  have hselected' : selectedKeys c'.dataset r.selected = some selected :=
    selectedKeys_congr (isSome_get?_iff h) r.selected ▸ hselected
  have hcontext : contextOf { c.dataset with view := view, selected := selected } =
      contextOf { c'.dataset with view := view, selected := selected } := by
    unfold contextOf
    rw [hbounds]
  simp only
  rw [← hcontext]
  refine compiled_bind_congr fun p hp => ?_
  rw [report_reordered h mode r (hf view selected p hview hselected hp)
    (hf' view selected p hview hselected' (hbounds ▸ hp))]

/-- **Searching two maps of the same elements is the same**, up to what is printed, unless an object
    has a fault in one of them. -/
theorem runIn_reordered {j j' : Json} {there there' : Stored}
    (h : Reordering c c' es es') (hbounds : c.dataset.bounds = c'.dataset.bounds)
    (hj : (load j).outcome = .ok c) (hj' : (load j').outcome = .ok c')
    (hthere : there.Holds j) (hthere' : there'.Holds j') (file : Path)
    (hf : Faultless options now r c) (hf' : Faultless options now r c') :
    (runIn mode options now r file there : Work m Unit) =
      runIn mode options now r file there' := by
  rw [runIn_eq, runIn_eq]
  refine viewOf_bind_congr fun view hview => ?_
  rw [loaded_eq hj hthere, loaded_eq hj' hthere', pure_bind, pure_bind, size_eq h,
    searched_reordered h hbounds hview hf hf']

end Command.Search

/-! ## 4. The order of elements -/

namespace Document

open Command (Work Mode)
open Command.Search (Request Faultless runIn)

/-- **The order of elements does not matter.** Of two documents that differ in the order of their
    elements, which have different keys, both are accepted or none. Then their maps have the same
    keys and the same box, and under each key there is the same object: it says the same of itself,
    it holds objects with the same keys in the same order and roles, and objects with the same keys
    refer to it. Every search of the one is the same search of the other, unless an object has a
    fault in it. -/
theorem load_order_irrelevant {j j' : Json} (h : Reordered j j') (hd : DistinctKeys j) :
    ((∃ c, (load j).outcome = .ok c) ↔ ∃ c', (load j').outcome = .ok c') ∧
    ∀ c c', (load j).outcome = .ok c → (load j').outcome = .ok c' →
      (c.dataset.entries.map Prod.fst).Perm (c'.dataset.entries.map Prod.fst) ∧
      c.dataset.bounds = c'.dataset.bounds ∧
      (∀ k x y, c.dataset.get? k = some x → c'.dataset.get? k = some y →
        ∃ p p', c.graph.get? x = some p ∧ c'.graph.get? y = some p' ∧
          p.Alike (c.graph.SameKey c'.graph) p') ∧
      ∀ (m : Type → Type) [Monad m] [LawfulMonad m] (mode : Mode) (options : TextOptions)
        (now : Int) (r : Request) (file : Path) (there there' : Stored),
        there.Holds j → there'.Holds j' →
        Faultless options now r c → Faultless options now r c' →
          (runIn mode options now r file there : Work m Unit) =
            runIn mode options now r file there' := by
  refine ⟨⟨fun ⟨c, hc⟩ => load_reordered h hc, fun ⟨c', hc'⟩ => load_reordered h.symm hc'⟩,
    fun c c' hj hj' => ?_⟩
  obtain ⟨⟨es, es', hcc⟩, hbounds⟩ := reordering_of_load h hd hj hj'
  refine ⟨?_, hbounds, fun k x y hx hy => ?_, ?_⟩
  · rw [hcc.left.keys, hcc.right.keys]
    exact hcc.keysOf_perm
  · exact hcc.renamed.object
      ⟨k, hcc.left.get?_eq_some_iff.mp hx, hcc.right.get?_eq_some_iff.mp hy⟩
  · intro m _ _ mode options now r file there there' hthere hthere' hf hf'
    exact Command.Search.runIn_reordered hcc hbounds hj hj' hthere hthere' file hf hf'

/-- A way with a node that stands behind it in one document and before it in the other, and a node
    that is missing. -/
theorem load_order_irrelevant_way :
    let way : Json := .obj [("type", .str "way"), ("id", .int 10), ("nodes", .arr [.int 1, .int 2])]
    let node : Json := .obj [("type", .str "node"), ("id", .int 1)]
    let j : Json := .obj [("elements", .arr [way, node])]
    let j' : Json := .obj [("elements", .arr [node, way])]
    let wayText := "\x7b\"type\":\"way\",\"id\":10,\"nodes\":[1,2]\x7d".toList
    let nodeText := "\x7b\"type\":\"node\",\"id\":1\x7d".toList
    let file (first second : List Char) : Stored :=
      .file (("\x7b\"elements\":[".toList ++ first ++ [','] ++ second ++ "]\x7d".toList).map
        fun c => c.toNat.toUInt8)
    let r : Request := { query := "", format := .ids, limit := some 2 }
    ∃ c c', (load j).outcome = .ok c ∧ (load j').outcome = .ok c' ∧
      c.dataset.entries.map Prod.fst = [⟨.way, 10⟩, ⟨.node, 1⟩, ⟨.node, 2⟩] ∧
      c'.dataset.entries.map Prod.fst = [⟨.node, 1⟩, ⟨.way, 10⟩, ⟨.node, 2⟩] ∧
      (∃ p p', c.graph.get? 0 = some p ∧ c'.graph.get? 1 = some p' ∧
        p.Alike (c.graph.SameKey c'.graph) p') ∧
      (file wayText nodeText).Holds j ∧ (file nodeText wayText).Holds j' ∧
      Faultless {} 0 r c ∧ Faultless {} 0 r c' ∧
      ∀ path, (runIn {} {} 0 r path (file wayText nodeText) : Work Id Unit) =
        runIn {} {} 0 r path (file nodeText wayText) := by
  intro way node j j' wayText nodeText file r
  have hreordered : Reordered j j' := ⟨_, _, _, rfl, rfl, .swap node way []⟩
  have hdistinct : DistinctKeys j := by
    intro items box hparts
    cases hparts
    show [(⟨.way, 10⟩ : Key), ⟨.node, 1⟩].Nodup
    decide
  obtain ⟨c, hj, hkeys, hway⟩ : ∃ c, (load j).outcome = .ok c ∧
      c.dataset.entries.map Prod.fst = [⟨.way, 10⟩, ⟨.node, 1⟩, ⟨.node, 2⟩] ∧
      c.dataset.get? ⟨.way, 10⟩ = some 0 := ⟨_, rfl, rfl, rfl⟩
  obtain ⟨c', hj', hkeys', hway'⟩ : ∃ c', (load j').outcome = .ok c' ∧
      c'.dataset.entries.map Prod.fst = [⟨.node, 1⟩, ⟨.way, 10⟩, ⟨.node, 2⟩] ∧
      c'.dataset.get? ⟨.way, 10⟩ = some 1 := ⟨_, rfl, rfl, rfl⟩
  have hthere : (file wayText nodeText).Holds j := by
    simp only [file, wayText, nodeText, String.reduceToList]
    exact Stored.holds_of_chars _ rfl rfl
  have hthere' : (file nodeText wayText).Holds j' := by
    simp only [file, wayText, nodeText, String.reduceToList]
    exact Stored.holds_of_chars _ rfl rfl
  have hfaultless : ∀ c, Faultless {} 0 r c := by
    intro c view selected p _ _ hp h _
    have hcompiled : (Query.compile
        { options := {}, context := some ⟨c.dataset.bounds, view⟩, now := 0 }
        r.query).outcome = .ok .always := rfl
    cases hcompiled.symm.trans hp
    cases hp : c.graph.get? h with
    | none => exact ⟨false, by unfold Graph.holds; rw [hp]⟩
    | some p => exact ⟨true, by rw [Graph.holds_of_get? hp, Graph.holdsAt]⟩
  obtain ⟨-, hmaps⟩ := load_order_irrelevant hreordered hdistinct
  obtain ⟨-, -, hobjects, hsearch⟩ := hmaps c c' hj hj'
  exact ⟨c, c', hj, hj', hkeys, hkeys', hobjects _ _ _ hway hway', hthere, hthere', hfaultless c,
    hfaultless c', fun path => hsearch Id {} {} 0 r path _ _ hthere hthere' (hfaultless c)
      (hfaultless c')⟩

end Document

end MapQuery
