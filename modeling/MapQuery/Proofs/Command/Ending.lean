import MapQuery.Command.Program
import MapQuery.Proofs.Command.Reordered
import MapQuery.Proofs.Screen.Markup

/-!
# Commands that come to their end

A command can stop early. What is known of one that does not is said here step by step, over a tree
of files: `Ends w s a s'` says that work `w` that starts in a state `s`, with what was written so
far and the files, comes to its end with a value in a state `s'`. A sequence of steps ends if each
of them does.

* `Ends.iff` -- work ends in one way only;
* `ends_bind`, `ends_write`, `ends_look` -- steps of any command;
* `ends_viewOf`, `ends_loaded`, `ends_selection` -- steps of a search;
* `Finds` -- what a request comes to in a map;
* `ends_runIn` -- a search ends just if it comes to something, and what it has written then;
* `ends_runSearch` -- so does the command, if its arguments ask for a search.
-/

namespace MapQuery.Command

/-- What a command was at work on: what it wrote so far, and the files. -/
structure State where
  output : Output := {}
  tree : Tree

/-- Work over a tree of files comes to its end, with a value. -/
def Ends {α : Type} (w : Work (StateM Tree) α) (s : State) (a : α) (s' : State) : Prop :=
  w.run.run s.output s.tree = ((.ok a, s'.output), s'.tree)

/-- A state in which more was written. -/
def State.wrote (s : State) (text : String) : State :=
  { s with output := { s.output with out := s.output.out ++ text } }

/-- A state in which more was written beside the output. -/
def State.warned (s : State) (text : String) : State :=
  { s with output := { s.output with err := s.output.err ++ text } }

namespace State

@[simp] theorem wrote_empty (s : State) : s.wrote "" = s := by
  unfold wrote
  rw [String.append_empty]

@[simp] theorem wrote_wrote (s : State) (a b : String) :
    (s.wrote a).wrote b = s.wrote (a ++ b) := by
  unfold wrote
  simp only [String.append_assoc]

@[simp] theorem warned_empty (s : State) : s.warned "" = s := by
  unfold warned
  rw [String.append_empty]

@[simp] theorem warned_warned (s : State) (a b : String) :
    (s.warned a).warned b = s.warned (a ++ b) := by
  unfold warned
  simp only [String.append_assoc]

/-- What is written beside the output can as well be written first. -/
@[simp] theorem warned_wrote (s : State) (a b : String) :
    (s.wrote a).warned b = (s.warned b).wrote a := rfl

end State

/-! ## 1. Steps of any command -/

section Steps

variable {α β : Type} {s s' : State} {a : α} {b : β}

/-- **Work ends in one way only**, if it does. -/
theorem Ends.iff {w : Work (StateM Tree) α} {x : α} {s₁ : State} (h : Ends w s x s₁) :
    Ends w s a s' ↔ a = x ∧ s' = s₁ := by
  constructor
  · intro h'
    have hsame := h.symm.trans h'
    rw [Prod.mk.injEq, Prod.mk.injEq, Except.ok.injEq] at hsame
    obtain ⟨⟨rfl, houtput⟩, htree⟩ := hsame
    obtain ⟨_, _⟩ := s₁
    obtain ⟨_, _⟩ := s'
    cases houtput
    cases htree
    exact ⟨rfl, rfl⟩
  · intro h'
    obtain ⟨rfl, rfl⟩ := h'
    exact h

theorem ends_pure {x : α} : Ends (pure x) s a s' ↔ a = x ∧ s' = s :=
  Ends.iff (w := pure x) rfl

/-- **One step after another ends if both do.** -/
theorem ends_bind {w : Work (StateM Tree) α} {f : α → Work (StateM Tree) β} :
    Ends (w >>= f) s b s' ↔ ∃ a s₁, Ends w s a s₁ ∧ Ends (f a) s₁ b s' := by
  have hrun : (w >>= f).run.run s.output s.tree = (match w.run.run s.output s.tree with
      | ((.ok a, o), t) => (f a).run.run o t
      | ((.error e, o), t) => ((.error e, o), t)) := by
    rw [ExceptT.run_bind, StateT.run_bind]
    show StateT.bind (w.run.run s.output) _ s.tree = _
    unfold StateT.bind
    rcases w.run.run s.output s.tree with ⟨⟨e | a, o⟩, t⟩
    · rfl
    · rfl
  unfold Ends
  rw [hrun]
  constructor
  · intro h
    split at h
    · next a o t hw => exact ⟨a, ⟨o, t⟩, hw, h⟩
    · cases h
  · intro h
    obtain ⟨a, s₁, hw, hf⟩ := h
    rw [hw]
    exact hf

theorem not_ends_throw {e : Stop} : ¬ Ends (throw e : Work (StateM Tree) α) s a s' := by
  intro h
  cases h

/-- **Writing ends if the text is clean.** -/
theorem ends_writeAdvised {advice : String} {text : Rough} {u : Unit} :
    Ends (writeAdvised advice text) s u s' ↔ text.Clean ∧ s' = s.wrote text.plain := by
  by_cases hclean : text.Clean
  · obtain ⟨t, rfl⟩ := Rough.clean_iff.mp hclean
    have hends : Ends (writeAdvised advice t) s () (s.wrote t) := rfl
    exact hends.iff.trans (and_congr (iff_of_true rfl hclean) Iff.rfl)
  · obtain ⟨e, he⟩ := Rough.encode_of_not_clean hclean
    refine ⟨fun h => ?_, fun h => absurd h.1 hclean⟩
    unfold writeAdvised at h
    rw [he] at h
    exact absurd h not_ends_throw

theorem ends_write {text : String} {u : Unit} : Ends (write text) s u s' ↔ s' = s.wrote text :=
  ends_writeAdvised.trans (and_iff_right (Rough.clean_ofString text))

theorem ends_writeError {text : Rough} {u : Unit} :
    Ends (writeError text) s u s' ↔ s' = s.warned text.escaped := by
  have hends : Ends (writeError text) s () (s.warned text.escaped) := rfl
  exact hends.iff.trans (and_iff_right rfl)

theorem not_ends_fail {code : Nat} {message : Rough} :
    ¬ Ends (fail code message : Work (StateM Tree) α) s a s' := by
  unfold fail
  rw [ends_bind]
  intro h
  obtain ⟨_, _, _, hthrow⟩ := h
  exact not_ends_throw hthrow

/-- A step that only looks at the files ends, and changes nothing. -/
theorem ends_liftM {x : StateM Tree α} {f : Tree → α} (h : x = fun t => (f t, t)) :
    Ends (liftM x) s a s' ↔ a = f s.tree ∧ s' = s := by
  have hends : Ends (liftM x) s (f s.tree) s := by
    rw [h]
    rfl
  exact hends.iff

theorem ends_look {p : Path} {there : Stored} :
    Ends (liftM (Storage.look p : StateM Tree Stored)) s there s' ↔
      there = s.tree.look p ∧ s' = s :=
  ends_liftM rfl

theorem ends_orMisuse {x : Except Misuse α} :
    Ends (orMisuse x) s a s' ↔ x = .ok a ∧ s' = s := by
  unfold orMisuse
  cases x with
  | ok y =>
    rw [ends_pure, Except.ok.injEq, eq_comm (a := y)]
  | error e => exact ⟨fun h => absurd h not_ends_throw, fun h => nomatch h.1⟩

/-- What is written as a note. -/
def noteText (message : Rough) : String := (messageText "[info]" message "[/info]").plain

/-- What is shown of a note can be written. -/
def CanNote (message : Rough) : Prop := (messageText "[info]" message "[/info]").Clean

theorem canNote_of_clean {message : Rough} (h : message.Clean) : CanNote message :=
  clean_messageText (Rough.clean_ofString _) h (Rough.clean_ofString _)

/-- What is written as a warning. -/
def warningText (message : Rough) : String :=
  (messageText "[warning]Warning:[/warning] " message "").escaped

theorem ends_info {message : Rough} {u : Unit} :
    Ends (info message) s u s' ↔ CanNote message ∧ s' = s.wrote (noteText message) :=
  ends_writeAdvised

/-- A note that is made in some modes only. -/
theorem ends_note {b : Bool} {message : Rough} (hclean : message.Clean) {u : Unit} :
    Ends (if b then info message else pure ()) s u s' ↔
      s' = s.wrote (if b then noteText message else "") := by
  cases b with
  | true =>
    rw [if_pos rfl, if_pos rfl, ends_info, and_iff_right (canNote_of_clean hclean)]
  | false =>
    rw [if_neg Bool.false_ne_true, if_neg Bool.false_ne_true, State.wrote_empty, ends_pure]
    exact ⟨fun h => h.2, fun h => ⟨rfl, h⟩⟩

/-- The same with more steps behind the note. -/
theorem ends_note_bind {c : Bool} {message : Rough} {w : Work (StateM Tree) β} :
    Ends (if c then (info message >>= fun _ => w) else w) s b s' ↔
      (c = true → CanNote message) ∧
        Ends w (s.wrote (if c then noteText message else "")) b s' := by
  cases c with
  | true =>
    rw [if_pos rfl, if_pos rfl, ends_bind]
    constructor
    · intro h
      obtain ⟨_, s₁, hnote, h⟩ := h
      obtain ⟨hcan, rfl⟩ := ends_info.mp hnote
      exact ⟨fun _ => hcan, h⟩
    · exact fun h => ⟨(), _, ends_info.mpr ⟨h.1 rfl, rfl⟩, h.2⟩
  | false =>
    rw [if_neg Bool.false_ne_true, if_neg Bool.false_ne_true, State.wrote_empty]
    exact (and_iff_right nofun).symm

/-- What stands in a tree at the path that a text names. -/
def seen (t : Tree) (text : String) : Stored :=
  if text.isEmpty then .nothing
  else
    match t.look (Path.ofText text) with
    | .file bytes => if namesFolder text then .blocked else .file bytes
    | other => other

theorem ends_lookText {text : String} {there : Stored} :
    Ends (liftM (lookText text : StateM Tree Stored)) s there s' ↔
      there = seen s.tree text ∧ s' = s := by
  have hseen : (lookText text : StateM Tree Stored) = fun t => (seen t text, t) := by
    funext t
    unfold lookText seen
    split
    · rfl
    · show StateT.bind (fun t => pure (t.look (Path.ofText text), t)) _ t = _
      unfold StateT.bind
      simp only [pure_bind]
      cases t.look (Path.ofText text) with
      | file bytes => rfl
      | directory => rfl
      | nothing => rfl
      | blocked => rfl
  exact ends_liftM hseen

end Steps

namespace Search

/-! ## 2. Steps of a search -/

section Steps

variable {s s' : State}

theorem ends_viewOf {r : Request} {view : Option Bounds} :
    Ends (viewOf r) s view s' ↔ viewBox r = some view ∧ s' = s := by
  unfold viewOf viewBox
  cases r.view.map Bounds.read with
  | none => rw [ends_pure, Option.some.injEq, eq_comm (a := view)]
  | some read =>
    cases read with
    | ok b => rw [ends_pure, Option.some.injEq, eq_comm (a := view)]
    | error e => exact ⟨fun h => absurd h not_ends_fail, fun h => nomatch h.1⟩

theorem ends_loaded {file : Path} {there : Stored} {c : Document.Content} :
    Ends (loaded file there) s c s' ↔ (Document.ofStored file there).1 = .ok c ∧ s' = s := by
  unfold loaded
  cases (Document.ofStored file there).1 with
  | ok x => rw [ends_pure, Except.ok.injEq, eq_comm (a := x)]
  | error e =>
    refine ⟨fun h => ?_, fun h => nomatch h.1⟩
    dsimp only at h
    split at h
    · exact absurd h not_ends_fail
    · exact absurd h not_ends_throw

theorem ends_compiled {setting : Query.Setting} {query : String} {p : Predicate} :
    Ends (compiled setting query) s p s' ↔
      (Query.compile setting query).outcome = .ok p ∧ s' = s := by
  unfold compiled
  cases (Query.compile setting query).outcome with
  | ok x => rw [ends_pure, Except.ok.injEq, eq_comm (a := x)]
  | error e =>
    refine ⟨fun h => ?_, fun h => nomatch h.1⟩
    dsimp only at h
    split at h
    · exact absurd h not_ends_fail
    · exact absurd h not_ends_throw

/-- What is written of references that name nothing in the data set. -/
def absentText (d : DataSet) : List String → String
  | [] => ""
  | ref :: rest =>
    (if ((Key.ofReference ref).bind d.get?).isSome then ""
      else warningText ("Selected " ++ ref ++ " is not in the data file")) ++ absentText d rest

/-- **A selection ends if all are references**, with the keys of those that name something. -/
theorem ends_selection {d : DataSet} {refs : List String} {ks : List Key} :
    Ends (selection d refs) s ks s' ↔
      selectedKeys d refs = some ks ∧ s' = s.warned (absentText d refs) := by
  induction refs generalizing s s' ks with
  | nil =>
    unfold selection selectedKeys absentText
    rw [ends_pure, Option.some.injEq, eq_comm (a := ks), State.warned_empty]
  | cons ref rest ih =>
    unfold selection selectedKeys absentText
    cases Key.ofReference ref with
    | none =>
      constructor
      · intro h
        exact absurd h not_ends_throw
      · intro h
        cases h.1
    | some k =>
      simp only [Option.bind_some]
      by_cases hk : (d.get? k).isSome = true
      · rw [if_pos hk, if_pos hk, if_pos hk, String.empty_append, ends_bind,
          Option.map_eq_some_iff]
        simp only [ends_pure, ih]
        constructor
        · intro h
          obtain ⟨others, _, ⟨hothers, rfl⟩, rfl, rfl⟩ := h
          exact ⟨⟨others, hothers, rfl⟩, rfl⟩
        · intro h
          obtain ⟨⟨others, hothers, rfl⟩, rfl⟩ := h
          exact ⟨others, _, ⟨hothers, rfl⟩, rfl, rfl⟩
      · rw [if_neg hk, if_neg hk, if_neg hk, ends_bind, ← State.warned_warned]
        constructor
        · intro h
          obtain ⟨_, s₁, hwarning, hrest⟩ := h
          obtain rfl := ends_writeError.mp hwarning
          exact ih.mp hrest
        · intro h
          exact ⟨(), _, ends_writeError.mpr rfl, ih.mpr h⟩

end Steps

/-! ## 3. A search -/

/-- What a request comes to in a map: the predicate of its query, and the objects that are found. -/
def Finds (options : TextOptions) (now : Int) (r : Request) (c : Document.Content) (p : Predicate)
    (found : List Primitive) : Prop :=
  ∃ view selected, viewBox r = some view ∧ selectedKeys c.dataset r.selected = some selected ∧
    (Query.compile { options := options, context := some ⟨c.dataset.bounds, view⟩, now := now }
      r.query).outcome = .ok p ∧
    results { c with dataset := { c.dataset with view := view, selected := selected } } p r.limit =
      .ok found

/-- The note on a map that was loaded. -/
def loadedMessage (file : Path) (c : Document.Content) : Rough :=
  "Loaded " ++ toString c.dataset.size ++ " features from " ++ file.text

/-- What is written of this note. -/
def loadedNote (mode : Mode) (file : Path) (c : Document.Content) : String :=
  if mode.verbose then noteText (loadedMessage file c) else ""

/-- The note on what a query stands for. -/
def compiledNote (r : Request) (p : Predicate) : String :=
  if r.explain then noteText ("Compiled: " ++ p.display) else ""

/-- What is written of the objects that were found, by their references. -/
def foundText (mode : Mode) (r : Request) (found : List Primitive) : String :=
  if found.isEmpty then
    if !mode.quiet then noteText ("No results for: " ++ r.query) else ""
  else idsText found

section Search

variable {mode : Mode} {options : TextOptions} {now : Int} {r : Request} {file : Path}
  {there : Stored} {s s' : State} {u : Unit}

theorem ends_report (hformat : r.format = .ids) {x : Except MatchFault (List Primitive)} :
    Ends (report mode r x) s u s' ↔
      ∃ found, x = .ok found ∧ s' = s.wrote (foundText mode r found) := by
  cases x with
  | error e => exact ⟨fun h => absurd h not_ends_throw, fun ⟨_, h, _⟩ => nomatch h⟩
  | ok found =>
    have hreport : Ends (report mode r (.ok found)) s u s' ↔
        s' = s.wrote (foundText mode r found) := by
      cases found with
      | nil =>
        have hmessage : ("No results for: " ++ r.query : Rough).Clean :=
          Rough.clean_append.mpr ⟨rfl, rfl⟩
        exact ends_note hmessage
      | cons p rest =>
        unfold report printResults
        rw [hformat]
        exact ends_write
    rw [hreport]
    constructor
    · exact fun h => ⟨found, rfl, h⟩
    · intro h
      obtain ⟨_, hfound, h⟩ := h
      cases hfound
      exact h

/-- **A search that prints references ends if it comes to something**, and if it can name the file
    where it has to. It writes what it finds. -/
theorem ends_runIn (hformat : r.format = .ids) :
    Ends (runIn mode options now r file there) s u s' ↔
      ∃ c p found, (Document.ofStored file there).1 = .ok c ∧ Finds options now r c p found ∧
        (mode.verbose = true → CanNote (loadedMessage file c)) ∧
        s' = (s.warned (absentText c.dataset r.selected)).wrote
          (loadedNote mode file c ++ compiledNote r p ++ foundText mode r found) := by
  have hwritten : ∀ c p found,
      (((s.wrote (loadedNote mode file c)).warned (absentText c.dataset r.selected)).wrote
        (compiledNote r p)).wrote (foundText mode r found) =
      (s.warned (absentText c.dataset r.selected)).wrote
        (loadedNote mode file c ++ compiledNote r p ++ foundText mode r found) := by
    intro c p found
    rw [State.warned_wrote, State.wrote_wrote, State.wrote_wrote, String.append_assoc]
  rw [runIn_eq]
  unfold searched
  simp only [ends_bind, ends_viewOf, ends_loaded, ends_note_bind, ends_selection, ends_compiled,
    ends_report hformat]
  constructor
  · intro h
    obtain ⟨view, _, ⟨hview, rfl⟩, c, _, ⟨hc, rfl⟩, hnote, selected, _, ⟨hselected, rfl⟩, h⟩ := h
    obtain ⟨p, _, ⟨hp, rfl⟩, -, found, hfound, hs'⟩ := h
    exact ⟨c, p, found, hc, ⟨view, selected, hview, hselected, hp, hfound⟩, hnote,
      hs'.trans (hwritten c p found)⟩
  · intro h
    obtain ⟨c, p, found, hc, ⟨view, selected, hview, hselected, hp, hfound⟩, hnote, hs'⟩ := h
    have hcompiled : CanNote ("Compiled: " ++ p.display) :=
      canNote_of_clean (Rough.clean_append.mpr ⟨rfl, rfl⟩)
    exact ⟨view, _, ⟨hview, rfl⟩, c, _, ⟨hc, rfl⟩, hnote, selected, _, ⟨hselected, rfl⟩,
      p, _, ⟨hp, rfl⟩, fun _ => hcompiled, found, hfound, hs'.trans (hwritten c p found).symm⟩

theorem ends_run {settings : Settings} :
    Ends (run mode settings now r) s u s' ↔
      ∃ file, settings.dataFile r.data = some file ∧
        Ends (runIn mode (settings.textOptions r.caseSensitive r.regex) now r file
          (s.tree.look file)) s u s' := by
  unfold run
  cases settings.dataFile r.data with
  | none =>
    have hstops : ¬ Ends (noData : Work (StateM Tree) Unit) s u s' := by
      unfold noData
      simp only [ends_bind]
      intro h
      obtain ⟨_, _, -, _, _, -, hthrow⟩ := h
      exact not_ends_throw hthrow
    exact ⟨fun h => absurd h hstops, fun ⟨_, h, _⟩ => nomatch h⟩
  | some file =>
    simp only [Option.some.injEq, exists_eq_left', ends_bind, ends_look]
    constructor
    · intro h
      obtain ⟨_, _, ⟨rfl, rfl⟩, h⟩ := h
      exact h
    · exact fun h => ⟨_, s, ⟨rfl, rfl⟩, h⟩

end Search

/-- What stands where the arguments say the map is. -/
def thereFor (t : Tree) (args : Reading Choice) : Stored :=
  match args.last (valueOf .data) with
  | some text => seen t text
  | none => .nothing

/-- **The command ends if its arguments ask for something**, and the search for that ends. -/
theorem ends_runSearch {w : World} {mode : Mode} {settings : Settings} {args : List String}
    {reading : Reading Choice} {s s' : State} {u : Unit} (hread : grammar.read args = .ok reading)
    (hhelp : reading.has (· == .help) = false) :
    Ends (runSearch w mode settings args) s u s' ↔
      ∃ r, request reading (thereFor s.tree reading) = .ok r ∧
        Ends (run mode settings w.now r) s u s' := by
  -- whatever is looked for, the same steps follow
  have hrest : ∀ {look : Work (StateM Tree) Stored},
      (∀ there s₁, Ends look s there s₁ ↔ there = thereFor s.tree reading ∧ s₁ = s) →
      (Ends (look >>= fun there => orMisuse (request reading there) >>= fun r =>
        run mode settings w.now r) s u s' ↔
      ∃ r, request reading (thereFor s.tree reading) = .ok r ∧
        Ends (run mode settings w.now r) s u s') := by
    intro look hlook
    simp only [ends_bind, hlook, ends_orMisuse]
    constructor
    · intro h
      obtain ⟨_, _, ⟨rfl, rfl⟩, r, _, ⟨hr, rfl⟩, h⟩ := h
      exact ⟨r, hr, h⟩
    · intro h
      obtain ⟨r, hr, h⟩ := h
      exact ⟨_, s, ⟨rfl, rfl⟩, r, s, ⟨hr, rfl⟩, h⟩
  unfold runSearch
  rw [hread]
  show Ends (if reading.has (· == .help) then _ else _) s u s' ↔ _
  rw [hhelp, if_neg Bool.false_ne_true]
  unfold thereFor at hrest ⊢
  cases hdata : reading.last (valueOf .data) with
  | some text =>
    rw [hdata] at hrest
    exact hrest fun _ _ => ends_lookText
  | none =>
    rw [hdata] at hrest
    exact hrest fun _ _ => ends_pure

end Search

end MapQuery.Command
